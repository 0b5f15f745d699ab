import Courier.Proofs.Signing.Verification
import Courier.Signing.Authentication

/-!
# What signing leaves alone

Signing writes fields of its own names and nothing else: a signed request has the body it was
given and, under every other name, the values it was given.
-/

namespace Courier

/-- Fields written in turn leave the values of all other names. -/
theorem TenantKey.values_writeAll_of_ne {n : HeaderName} {h : Headers}
    {l : List (HeaderName × String)} (hn : n ∉ l.map (·.1)) :
    (writeAll h l).1.values n = h.values n := by
  induction l generalizing h with
  | nil => rfl
  | cons e rest ih =>
    obtain ⟨m, s⟩ := e
    rw [List.map_cons, List.mem_cons, not_or] at hn
    unfold writeAll Headers.write
    cases HeaderValue.ofText? s with
    | none => rfl
    | some v =>
      dsimp only
      rw [ih hn.2, Headers.values_insert_of_ne _ _ hn.1]

theorem TenantKey.values_sign_of_ne {k : TenantKey} {h : Headers} {body : Bytes}
    {time nonce : String} {n : HeaderName} (hts : n ≠ .tenantTs) (hnonce : n ≠ .tenantNonce)
    (hsignature : n ≠ .tenantSignature) : (k.sign h body time nonce).1.values n = h.values n :=
  values_writeAll_of_ne (by simp [hts, hnonce, hsignature])

namespace Authentication

/-- The names of the fields that signing writes, in one way or the other. -/
def writtenNames : List HeaderName :=
  Keyed.preparedNames ++ [.authorization, .xSecurityToken, .tenantTs, .tenantNonce,
    .tenantSignature]

variable {a : Authentication} {r signed : Request} {now : Nat} {id : String}

/-- **Signing touches no other name.** -/
theorem values_signAt_of_ne (h : a.signAt r now id = (signed, .ok ())) {n : HeaderName}
    (hn : n ∉ writtenNames) : signed.headers.values n = r.headers.values n := by
  rw [writtenNames, List.mem_append, not_or] at hn
  obtain ⟨hprepared, hn⟩ := hn
  simp only [List.mem_cons, List.not_mem_nil, or_false, not_or] at hn
  obtain ⟨hauthorization, htoken, hts, hnonce, hsignature⟩ := hn
  cases a with
  | keyed c =>
    simp only [signAt, Keyed.signRequest] at h
    split at h
    · cases h
    · generalize hs : Keyed.sign _ _ _ _ = outcome at h
      obtain ⟨g, result⟩ := outcome
      obtain ⟨rfl, rfl⟩ := Prod.mk.inj h
      dsimp only
      rw [Keyed.values_of_sign hs hauthorization fun e => absurd e htoken,
        Keyed.values_prepared_of_ne hprepared]
  | tenant k =>
    simp only [signAt, Prod.mk.injEq] at h
    obtain ⟨rfl, -⟩ := h
    exact TenantKey.values_sign_of_ne hts hnonce hsignature

/-- **Signing keeps the body.** -/
theorem body_signAt (a : Authentication) (r : Request) (now : Nat) (id : String) :
    (a.signAt r now id).1.body = r.body := by
  cases a with
  | keyed c =>
    simp only [signAt, Keyed.signRequest]
    split <;> rfl
  | tenant k => simp only [signAt]

end Authentication

end Courier
