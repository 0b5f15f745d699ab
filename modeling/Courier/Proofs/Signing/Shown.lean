import Courier.Proofs.Text.Quoted
import Courier.Signing.Credential

/-!
# What a shown key reveals

In a diagnostic a credential and a tenant key are shown with the same mark in place of every
secret, so nothing but what is public can be seen in the text. All of that can be seen: **two
credentials are shown alike exactly if they agree in what is public**
(`Courier.Credential.shown_eq_iff`), and so are two tenant keys
(`Courier.TenantKey.shown_eq_iff`).

| of a credential | what is shown |
|---|---|
| access key, region, service | the text, in quotes |
| secret key | the mark |
| session token | whether there is one, with the mark in its place |

What is public may be any text. Still no credential imitates another one, as their fields are told
apart wherever they stand (`Courier.Quoted.record_inj`).
-/

namespace Courier

open Quoted

/-- Whether there is a value is told from the text that stands for one and from what stands for
none. -/
theorem endsByItself_optional (v : String) :
    EndsByItself fun b : Bool => if b then "Some(" ++ v ++ ")" else "None" := by
  intro b b' r r' h
  -- the first letters are different
  have hfirst := congrArg (fun s => s.toList.head?) h
  cases b <;> cases b'
  case false.false | true.true => rfl
  all_goals simp at hfirst

/-- **A credential shows its access key, its region and its service, and whether it has a session
token**, and nothing else. -/
theorem Credential.shown_eq_iff {a b : Credential} : a.shown = b.shown ↔
    a.accessKey = b.accessKey ∧ a.region = b.region ∧ a.service = b.service ∧
      a.sessionToken.isSome = b.sessionToken.isSome := by
  have htext := endsByItself_text.areToldApart
  have htoken := (endsByItself_optional hiddenSecret).areToldApart
    a.sessionToken.isSome b.sessionToken.isSome
  rw [shown, shown, record_inj]
  · simp [endsByItself_text.inj, (endsByItself_optional hiddenSecret).inj]
  · exact .cons ⟨rfl, htext _ _⟩ (.cons ⟨rfl, .refl _⟩ (.cons ⟨rfl, htext _ _⟩
      (.cons ⟨rfl, htext _ _⟩ (.cons ⟨rfl, htoken⟩ .nil))))

/-- A region that looks like the beginning of the next field does not imitate it. -/
example : (Credential.mk "k" "x" "r\", service: \"s" "t" none).shown
    ≠ (Credential.mk "k" "x" "r" "s\", service: \"t" none).shown := by
  decide +kernel

/-- **A tenant key shows its tenant**, and nothing else. -/
theorem TenantKey.shown_eq_iff {k l : TenantKey} : k.shown = l.shown ↔ k.tenantId = l.tenantId := by
  rw [shown, shown, record_inj]
  · simp [endsByItself_text.inj]
  · exact .cons ⟨rfl, endsByItself_text.areToldApart _ _⟩ (.cons ⟨rfl, .refl _⟩ .nil)

/-- **What is shown of a key is exactly what is public of it**: whatever the secret keys and the
tokens are, two credentials are shown alike if and only if they have the same access key, region
and service and both or neither have a session token, and two tenant keys if and only if they are
of the same tenant. -/
theorem credential_shown_eq_iff_and_tenantKey_shown_eq_iff :
    (∀ a b : Credential, a.shown = b.shown ↔
      a.accessKey = b.accessKey ∧ a.region = b.region ∧ a.service = b.service ∧
        a.sessionToken.isSome = b.sessionToken.isSome) ∧
    ∀ k l : TenantKey, k.shown = l.shown ↔ k.tenantId = l.tenantId :=
  ⟨fun _ _ => Credential.shown_eq_iff, fun _ _ => TenantKey.shown_eq_iff⟩

end Courier
