import Courier.Proofs.Signing.Alike
import Courier.Proofs.Signing.Verification
import Courier.Proofs.Text.Order

/-!
# Signing what is signed

A header that was signed without a session token is left as it is when it is signed again
(`Courier.Keyed.isListing_and_sign_again`). Of what signing reads, the first run has changed
nothing after it was read:

* what was prepared is found prepared (`Courier.Keyed.isPrepared_of_sign`);
* `authorization` alone is written after the signature was made, and it is not signed.

So the second run signs the same text, and writes the same value of `authorization` once more.
A session token would break this: it is written after signing, under a name that is signed if
it occurs.

By the same reasons the names that are stated to be signed are the signable names of the header
**that is sent** (`Courier.Keyed.IsListing`), and not only of the one that was prepared.
-/

namespace Courier

namespace Canonical

/-- The names that a signature covers, as they are spelled. -/
theorem isSignable_iff {n : HeaderName} :
    isSignable n = true ↔ n.text ∈ ["content-type", "content-md5", "host"] ∨
      ∃ rest, n.text = "x-" ++ rest := by
  have hname : ∀ m : HeaderName, n = m ↔ n.text = m.text :=
    fun m => ⟨congrArg HeaderName.text, HeaderName.ext⟩
  simp only [isSignable, Bool.or_eq_true, decide_eq_true_eq, startsWith_iff, hname, List.mem_cons,
    List.not_mem_nil, or_false, or_assoc]
  rfl

/-- The value that holds the signature is not signed. -/
theorem ne_authorization {n : HeaderName} (hn : isSignable n = true) : n ≠ .authorization := by
  rintro rfl
  exact absurd hn (by decide)

end Canonical

namespace Keyed

/-- The signable names of a header, each once, in the order of their bytes. -/
structure IsListing (names : List HeaderName) (g : Headers) : Prop where
  mem_iff : ∀ n, n ∈ names ↔ g.contains n = true ∧
    (n.text ∈ ["content-type", "content-md5", "host"] ∨ ∃ rest, n.text = "x-" ++ rest)
  ascending : names.Pairwise fun a b => utf8 a.text < utf8 b.text

/-- The names that are signed are such a list. -/
theorem isListing_signedNames (g : Headers) : IsListing (Canonical.signedNames g) g where
  mem_iff n := by
    rw [Canonical.mem_signedNames, Canonical.isSignable_iff, Headers.contains_iff, and_comm]
  ascending := by
    refine List.Pairwise.imp₂ (fun a b hne hle => ?_) (Canonical.nodup_signedNames g)
      (Canonical.pairwise_signedNames g)
    rw [utf8_lt_utf8_iff]
    exact lt_of_le_of_ne hle fun he => hne (HeaderName.ext he)

/-- Headers that differ in `authorization` at most are signed alike. -/
theorem samePrepared_of_values {g g' : Headers}
    (hv : ∀ n, n ≠ .authorization → g.values n = g'.values n) : SamePrepared g g' where
  date := by rw [Headers.get?, Headers.get?, hv _ (by decide)]
  field n hn := by
    rw [SameField, Headers.get?, Headers.get?, hv n (Canonical.ne_authorization hn)]
    cases (g'.values n).head? with
    | none => exact .none
    | some v => exact .some (SameValue.refl v)

section Sent

variable {h sent : Headers} {p : Parts} {c : Credential} {now : String}
  (hc : c.sessionToken = none) (hs : sign h p c now = (sent, .ok ()))
include hc hs

/-- Without a token, `authorization` alone is written after preparing. -/
theorem values_of_sign_of_no_token {n : HeaderName} (hn : n ≠ .authorization) :
    sent.values n = (prepared h p now).values n :=
  values_of_sign hs hn fun _ => hc

/-- **What was signed is still prepared.** -/
theorem isPrepared_of_sign : IsPrepared sent p := by
  refine (isPrepared_prepared (sign_eq_ok_iff.1 hs).1).congr fun n hn => ?_
  refine values_of_sign_of_no_token hc hs ?_
  rintro rfl
  exact absurd hn (by decide)

/-- The names that are signed are those of the header that is sent. -/
theorem isListing_of_sign : IsListing (Canonical.signedNames (prepared h p now)) sent := by
  have hnames : Canonical.signedNames (prepared h p now) = Canonical.signedNames sent := by
    refine Canonical.signedNames_eq_of_mem_iff fun n => ?_
    rw [Canonical.mem_signedNames, Canonical.mem_signedNames]
    refine and_congr_right fun hn => ?_
    rw [values_of_sign_of_no_token hc hs (Canonical.ne_authorization hn)]
  rw [hnames]
  exact isListing_signedNames sent

/-- **Signing again** succeeds, at whatever moment, and changes no header. -/
theorem exists_sign_again (now' : String) :
    ∃ again, sign sent p c now' = (again, .ok ()) ∧ ∀ n, again.values n = sent.values n := by
  have hprepared := isPrepared_of_sign hc hs
  have hsame : SamePrepared (prepared h p now) (prepared sent p now') := by
    refine samePrepared_of_values fun n hn => ?_
    rw [hprepared.values_prepared now' n, values_of_sign_of_no_token hc hs hn]
  have hdate' : (prepared h p now).lossy .xDate = (prepared sent p now').lossy .xDate := by
    rw [Headers.lossy, Headers.lossy, hsame.date]
  obtain ⟨-, date, v, hdate, hv, hsent⟩ := sign_eq_ok_iff.1 hs
  rw [hc] at hsent
  dsimp only at hsent
  -- the second run writes the value `v` of the first
  have hv' : HeaderValue.ofText? (authorization (signedRequest sent p now')
      ((prepared sent p now').lossy .xDate) date c) = some v := by
    rw [← hv, ← hdate']
    exact congrArg _ (hsame.authorization_eq ⟨rfl, rfl, rfl, fun _ => rfl, rfl⟩ _ _ _ c).symm
  refine ⟨(prepared sent p now').insert .authorization v, ?_, fun n => ?_⟩
  · refine sign_eq_ok_iff.2 ⟨hprepared.prepare_eq_ok now', date, v, ?_, hv', ?_⟩
    · rw [← hdate', hdate]
    · rw [hc]
  · by_cases hn : n = .authorization
    · rw [hn, hsent, Headers.values_insert_self, Headers.values_insert_self]
    · rw [Headers.values_insert_of_ne _ v hn, hprepared.values_prepared now' n]

end Sent

/-- **Signing without a session token is complete and settles at once.** The names that are
stated to be signed are the signable names of the header that is sent, each once and in the
order of their bytes; and signing that header again, at whatever moment, succeeds and leaves
all values of all names. -/
theorem isListing_and_sign_again {h sent : Headers} {p : Parts} {c : Credential} {now : String}
    (hc : c.sessionToken = none) (hs : sign h p c now = (sent, .ok ())) :
    (∃ names, (statement? (sent.lossy .authorization)).map (·.names)
        = some (names.map HeaderName.text) ∧ IsListing names sent) ∧
      ∀ now', ∃ again, sign sent p c now' = (again, .ok ()) ∧
        ∀ n, again.values n = sent.values n := by
  refine ⟨⟨Canonical.signedNames (prepared h p now), ?_, isListing_of_sign hc hs⟩,
    exists_sign_again hc hs⟩
  obtain ⟨date, hdate, -⟩ := exists_dateOf?_of_sign hs
  rw [statement?_of_sign hs hdate, Option.map_some, statedNames]

/-- A header with repeated, empty and oddly spaced values. -/
theorem sign_again_of_odd_values :
    let h : Headers := ⟨[(.host, ⟨utf8 "", by decide⟩), (.host, ⟨utf8 "second", by decide⟩),
      (.xDate, ⟨utf8 "20240102T030405Z", by decide⟩), (.contentType, ⟨utf8 " ", by decide⟩),
      (.authorization, ⟨utf8 "old", by decide⟩), (.contentMd5, ⟨utf8 "\t1 ", by decide⟩)]⟩
    let p : Parts := ⟨"GET", "example.com:443", "", [], utf8 "body"⟩
    let c : Credential := ⟨"AK", "SK", "r", "s", none⟩
    ∃ sent, sign h p c "" = (sent, .ok ()) ∧
      ∃ again, sign sent p c "" = (again, .ok ()) ∧ ∀ n, again.values n = sent.values n := by
  intro h p c
  have hdate : dateOf? ((prepared h p "").lossy .xDate) = some "20240102" := by decide +kernel
  obtain ⟨v, hv⟩ := HeaderValue.exists_ofText?_eq_some_iff.2
    ((isValueText_authorization (signedRequest h p "") ((prepared h p "").lossy .xDate)
      "20240102" c).trans (by decide))
  have hs : sign h p c "" = (_, .ok ()) :=
    sign_eq_ok_iff.2 ⟨by decide +kernel, _, v, hdate, hv, rfl⟩
  exact ⟨_, hs, (isListing_and_sign_again rfl hs).2 ""⟩

end Keyed

end Courier
