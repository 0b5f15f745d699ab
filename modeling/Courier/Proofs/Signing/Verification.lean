import Courier.Proofs.Signing.Keyed

/-!
# Checking a signature

Whoever receives a request has the header as it was sent. They read in `authorization` which
names are signed and what the signature is (`Courier.Keyed.statement?`), keep the fields of
these names only (`Courier.Headers.only`), and compute the signature again
(`Courier.Keyed.Verifies`). If nothing that is signed were changed after signing, the two
would always agree.

One thing is changed: with a session token, signing writes `x-security-token` **after** it has
signed. A name that begins with `x-` is signed if it occurs, so a caller who has set that
header has the old value signed and the new one sent. How far this reaches is the same for
every request that signing does not fail on (`Courier.Keyed.verifies_iff_and_values_iff`):

* the signature verifies exactly if there was no such header, there is no token, or the two
  have the same canonical value – or else two different texts happen to share a signature;
* the signed fields are sent unchanged exactly if there was no such header, there is no token,
  or the header had the token as its only value.
-/

namespace Courier

/-- The fields with one of some names. -/
def Headers.only (h : Headers) (names : List String) : Headers :=
  ⟨h.fields.filter fun f => names.contains f.1.text⟩

/-- The fields with one of some names have the values that these names had. -/
theorem Headers.values_only (h : Headers) (names : List HeaderName) (n : HeaderName) :
    (h.only (names.map HeaderName.text)).values n = if n ∈ names then h.values n else [] := by
  have hmem : n.text ∈ names.map HeaderName.text ↔ n ∈ names := by
    constructor
    · intro hn
      obtain ⟨m, hm, he⟩ := List.mem_map.1 hn
      rwa [HeaderName.ext he] at hm
    · exact List.mem_map_of_mem
  unfold Headers.values Headers.only
  rw [List.filter_filter]
  split
  · rename_i hn
    congr 1
    refine List.filter_congr fun f _ => ?_
    by_cases hf : f.1 = n
    · subst hf
      simpa using hmem.2 hn
    · simp [hf]
  · rename_i hn
    rw [List.map_eq_nil_iff, List.filter_eq_nil_iff]
    intro f _
    by_cases hf : f.1 = n
    · subst hf
      simpa using mt hmem.1 hn
    · simp [hf]

theorem Headers.lossy_only (h : Headers) {names : List HeaderName} {n : HeaderName}
    (hn : n ∈ names) : (h.only (names.map HeaderName.text)).lossy n = h.lossy n := by
  refine Headers.lossy_congr ?_
  rw [Headers.values_only, if_pos hn]

namespace Keyed

/-! ### What is stated -/

/-- What an `authorization` value states: the names that are signed, and the signature. -/
structure Statement where
  names : List String
  signature : String

/-- The statement of an `authorization` value. It is read from the end, where nothing that is
chosen freely stands: the signature after the last equals sign, and before it the names. -/
def statement? (s : String) : Option Statement :=
  match (splitAll '=' s).reverse with
  | signature :: before :: _ =>
    (splitAtFirst? ',' before).map fun cut => ⟨splitAll ';' cut.1, signature⟩
  | _ => none

/-- A list of names holds token characters and semicolons only. -/
theorem notMem_fieldNames {c : Char} (hc : isTokenChar c = false) (hs : c ≠ ';')
    (fields : List (HeaderName × String)) : c ∉ (Canonical.fieldNames fields).toList := by
  refine notMem_intercalate (by simpa using hs) fun s hmem => ?_
  obtain ⟨f, -, rfl⟩ := List.mem_map.1 hmem
  exact Canonical.notMem_text hc f.1

theorem notMem_signature (r : Canonical.Request) (timestamp date : String) (c : Credential) :
    '=' ∉ (signature r timestamp date c).toList := by
  intro hmem
  obtain ⟨n, hn, he⟩ := Hex.exists_of_mem_ofBytes hmem
  have hdigit : ∀ n < 16, '=' ≠ Hex.lower n := by decide
  exact hdigit n hn he

/-- **What signing writes is read back**, whatever stands in the access key and the scope. -/
theorem statement?_authorization {r : Canonical.Request} (hr : r.fields ≠ [])
    (timestamp date : String) (c : Credential) :
    statement? (authorization r timestamp date c)
      = some ⟨r.fields.map (·.1.text), signature r timestamp date c⟩ := by
  have hparts : authorization r timestamp date c
      = (algorithm ++ " Credential=" ++ c.accessKey ++ "/" ++ scope date c ++ ", SignedHeaders")
        ++ "=" ++ (Canonical.fieldNames r.fields ++ "," ++ " Signature")
        ++ "=" ++ signature r timestamp date c := by
    have hstart : ", SignedHeaders=" = ", SignedHeaders" ++ "=" := by decide
    have hend : ", Signature=" = "," ++ " Signature" ++ "=" := by decide
    rw [authorization, hstart, hend]
    simp only [String.append_assoc]
  have hbefore : '=' ∉ (Canonical.fieldNames r.fields ++ "," ++ " Signature").toList := by
    have hnames := notMem_fieldNames (c := '=') (by decide) (by decide) r.fields
    simp [hnames]
  have hnames : splitAll ';' (Canonical.fieldNames r.fields) = r.fields.map (·.1.text) := by
    refine splitAll_intercalate (by decide) (by simpa using hr) fun s hmem => ?_
    obtain ⟨f, -, rfl⟩ := List.mem_map.1 hmem
    exact Canonical.notMem_text (by decide) f.1
  have hcut : splitAtFirst? ',' (Canonical.fieldNames r.fields ++ "," ++ " Signature")
      = some (Canonical.fieldNames r.fields, " Signature") :=
    splitAtFirst?_append (by decide) (notMem_fieldNames (by decide) (by decide) r.fields) _
  rw [statement?, hparts, splitAll_append (by decide), splitAll_append (by decide),
    splitAll_of_notMem hbefore, splitAll_of_notMem (notMem_signature r timestamp date c)]
  simp [hcut, hnames]

/-! ### What is checked -/

/-- The canonical request that is rebuilt from the fields of some names. -/
def rebuilt (sent : Headers) (names : List String) (p : Parts) : Canonical.Request :=
  canonicalRequest (sent.only names) p (sha256Hex p.body)

/-- The signature that is computed from the fields of some names. -/
def recomputed? (sent : Headers) (names : List String) (p : Parts) (c : Credential) :
    Option String :=
  let timestamp := (sent.only names).lossy .xDate
  (dateOf? timestamp).map fun date => signature (rebuilt sent names p) timestamp date c

/-- A header verifies if the signature it states is the one computed from the fields it
states to be signed. -/
def Verifies (sent : Headers) (p : Parts) (c : Credential) : Prop :=
  ∃ s, statement? (sent.lossy .authorization) = some s ∧
    recomputed? sent s.names p c = some s.signature

/-- The token and the header it replaces have the same canonical value, if there are both. -/
def TokenAgrees (h : Headers) (c : Credential) : Prop :=
  ∀ token ∈ c.sessionToken, h.contains .xSecurityToken = true →
    trim (h.lossy .xSecurityToken) = trim token

/-- The token is the only value of the header it replaces, if there are both. -/
def TokenStays (h : Headers) (c : Credential) : Prop :=
  ∀ token ∈ c.sessionToken, h.contains .xSecurityToken = true →
    (h.values .xSecurityToken).map (·.bytes) = [utf8 token]

/-- Two canonical requests with different texts that have the same signature. -/
def Collide (r r' : Canonical.Request) (timestamp date : String) (c : Credential) : Prop :=
  r.text ≠ r'.text ∧ signature r timestamp date c = signature r' timestamp date c

/-! ### What is sent -/

/-- The names that signing states: those of the fields it has signed. -/
def statedNames (h : Headers) (p : Parts) (now : String) : List String :=
  (Canonical.signedNames (prepared h p now)).map HeaderName.text

/-- Preparing leaves the token alone. -/
theorem values_prepared_xSecurityToken (h : Headers) (p : Parts) (now : String) :
    (prepared h p now).values .xSecurityToken = h.values .xSecurityToken :=
  values_prepared_of_ne (by decide)

/-- A token is signed exactly if the caller has set it. -/
theorem xSecurityToken_mem_signedNames_iff {h : Headers} {p : Parts} {now : String} :
    .xSecurityToken ∈ Canonical.signedNames (prepared h p now) ↔
      h.contains .xSecurityToken = true := by
  rw [Canonical.mem_signedNames, values_prepared_xSecurityToken, Headers.contains_iff]
  exact and_iff_right (by decide)

section Sent

variable {h sent : Headers} {p : Parts} {c : Credential} {now : String}
  (hs : sign h p c now = (sent, .ok ()))
include hs

/-- The date of a request that was signed. -/
theorem exists_dateOf?_of_sign :
    ∃ date, dateOf? ((prepared h p now).lossy .xDate) = some date ∧
      sent.lossy .authorization
        = authorization (signedRequest h p now) ((prepared h p now).lossy .xDate) date c := by
  obtain ⟨date, v, hdate, hv, hvalues⟩ := exists_authorization_of_sign hs
  refine ⟨date, hdate, ?_⟩
  rw [← HeaderValue.lossy_of_ofText? hv, Headers.lossy, Headers.get?, hvalues]
  rfl

/-- **Signing changes two names only**, and the second only if there is a token. -/
theorem values_of_sign {n : HeaderName} (ha : n ≠ .authorization)
    (ht : n = .xSecurityToken → c.sessionToken = none) :
    sent.values n = (prepared h p now).values n := by
  obtain ⟨-, date, v, -, -, hsent⟩ := sign_eq_ok_iff.1 hs
  cases hc : c.sessionToken with
  | none =>
    rw [hc] at hsent
    rw [hsent, Headers.values_insert_of_ne _ v ha]
  | some token =>
    rw [hc] at hsent
    obtain ⟨w, -, rfl⟩ := hsent
    have hn : n ≠ .xSecurityToken := by
      intro e
      rw [ht e] at hc
      cases hc
    rw [Headers.values_insert_of_ne _ w hn, Headers.values_insert_of_ne _ v ha]

/-- A token is sent as the only value of its name. -/
theorem values_xSecurityToken_of_sign {token : String} (hc : c.sessionToken = some token) :
    ∃ w, HeaderValue.ofText? token = some w ∧ sent.values .xSecurityToken = [w] := by
  obtain ⟨-, date, v, -, -, hsent⟩ := sign_eq_ok_iff.1 hs
  rw [hc] at hsent
  obtain ⟨w, hw, rfl⟩ := hsent
  exact ⟨w, hw, Headers.values_insert_self _ _ w⟩

/-- What is signed and not the token is sent as it was signed. -/
theorem values_eq_or_token_of_sign {n : HeaderName}
    (hn : n ∈ Canonical.signedNames (prepared h p now)) :
    sent.values n = (prepared h p now).values n ∨
      n = .xSecurityToken ∧ ∃ token, c.sessionToken = some token := by
  by_cases ht : n = .xSecurityToken → c.sessionToken = none
  · refine Or.inl (values_of_sign hs ?_ ht)
    rintro rfl
    exact absurd (Canonical.mem_signedNames.1 hn).1 (by decide)
  · obtain ⟨htoken, hc⟩ := Classical.not_imp.1 ht
    exact Or.inr ⟨htoken, Option.ne_none_iff_exists'.1 hc⟩

/-- Every signed name is sent. -/
theorem values_ne_nil_of_sign {n : HeaderName}
    (hn : n ∈ Canonical.signedNames (prepared h p now)) : sent.values n ≠ [] := by
  rcases values_eq_or_token_of_sign hs hn with he | ⟨rfl, token, hc⟩
  · rw [he]
    exact (Canonical.mem_signedNames.1 hn).2
  · obtain ⟨w, -, hw⟩ := values_xSecurityToken_of_sign hs hc
    simp [hw]

/-- **The same names are found again**: of the fields that are kept, all are signed. -/
theorem signedNames_only_of_sign :
    Canonical.signedNames (sent.only (statedNames h p now))
      = Canonical.signedNames (prepared h p now) := by
  refine Canonical.signedNames_eq_of_mem_iff fun n => ?_
  rw [Canonical.mem_signedNames, statedNames, Headers.values_only]
  constructor
  · rintro ⟨-, hv⟩
    by_contra hn
    rw [if_neg hn] at hv
    exact hv rfl
  · intro hn
    rw [if_pos hn]
    exact ⟨(Canonical.mem_signedNames.1 hn).1, values_ne_nil_of_sign hs hn⟩

/-- **The canonical values agree** exactly if that of the token does. -/
theorem fieldValue_eq_of_sign_iff :
    (∀ n ∈ Canonical.signedNames (prepared h p now),
        Canonical.fieldValue n (sent.lossy n)
          = Canonical.fieldValue n ((prepared h p now).lossy n))
      ↔ TokenAgrees h c := by
  have hold := Headers.lossy_congr (values_prepared_xSecurityToken h p now)
  have hvalue : ∀ s, Canonical.fieldValue .xSecurityToken s = trim s := by
    intro s
    exact if_neg (by decide)
  have hnew : ∀ {token}, c.sessionToken = some token → sent.lossy .xSecurityToken = token := by
    intro token hc
    obtain ⟨w, hw, hsent⟩ := values_xSecurityToken_of_sign hs hc
    simp [Headers.lossy, Headers.get?, hsent, HeaderValue.lossy_of_ofText? hw]
  constructor
  · intro hall token hc hin
    have he := hall _ (xSecurityToken_mem_signedNames_iff.2 hin)
    rwa [hvalue, hvalue, hnew hc, hold, eq_comm] at he
  · intro hagrees n hn
    rcases values_eq_or_token_of_sign hs hn with he | ⟨rfl, token, hc⟩
    · rw [Headers.lossy_congr he]
    · rw [hvalue, hvalue, hnew hc, hold,
        hagrees token hc (xSecurityToken_mem_signedNames_iff.1 hn)]

/-- **The values are sent as they were signed** exactly if the token stays as it was. -/
theorem values_eq_of_sign_iff :
    (∀ n ∈ Canonical.signedNames (prepared h p now),
        sent.values n = (prepared h p now).values n) ↔ TokenStays h c := by
  have hold := values_prepared_xSecurityToken h p now
  have hnew : ∀ {token}, c.sessionToken = some token →
      (sent.values .xSecurityToken).map (·.bytes) = [utf8 token] := by
    intro token hc
    obtain ⟨w, hw, hsent⟩ := values_xSecurityToken_of_sign hs hc
    simp [hsent, HeaderValue.ofText?_eq_some_iff.1 hw]
  constructor
  · intro hall token hc hin
    rw [← hold, ← hall _ (xSecurityToken_mem_signedNames_iff.2 hin)]
    exact hnew hc
  · intro hstays n hn
    rcases values_eq_or_token_of_sign hs hn with he | ⟨rfl, token, hc⟩
    · exact he
    · have hb := hstays token hc (xSecurityToken_mem_signedNames_iff.1 hn)
      rw [← hnew hc, ← hold] at hb
      exact (List.map_inj_right fun _ _ => HeaderValue.ext).1 hb.symm

/-- **The rebuilt text is the signed one** exactly if the canonical value of the token is. -/
theorem text_rebuilt_eq_iff :
    (rebuilt sent (statedNames h p now) p).text = (signedRequest h p now).text ↔
      TokenAgrees h c := by
  have hnames := signedNames_only_of_sign hs
  have hfits : ∀ g, Canonical.Request.FitsLines
      { canonicalRequest g p (sha256Hex p.body) with method := "" } := fun g =>
    fitsLines_canonicalRequest g (p := { p with method := "" }) (by simp)
  rw [← fieldValue_eq_of_sign_iff hs]
  refine (Canonical.Request.text_with_fields_eq_iff (hfits _) (hfits _).values).trans ?_
  refine (Canonical.signedFields_eq_iff hnames).trans ?_
  rw [hnames]
  refine forall₂_congr fun n hn => ?_
  rw [statedNames, Headers.lossy_only sent hn]

/-- A date that can be read is signed. -/
theorem xDate_mem_signedNames :
    HeaderName.xDate ∈ Canonical.signedNames (prepared h p now) := by
  obtain ⟨date, hdate, -⟩ := exists_dateOf?_of_sign hs
  refine Canonical.mem_signedNames.2 ⟨by decide, fun hv => ?_⟩
  have hempty : (prepared h p now).lossy .xDate = "" := by
    simp [Headers.lossy, Headers.get?, hv]
  rw [hempty] at hdate
  simp [dateOf?, takeBytes?, takeBytesChars?] at hdate

/-- **The signed names and the signature over them are stated.** -/
theorem statement?_of_sign {date : String}
    (hdate : dateOf? ((prepared h p now).lossy .xDate) = some date) :
    statement? (sent.lossy .authorization)
      = some ⟨statedNames h p now,
          signature (signedRequest h p now) ((prepared h p now).lossy .xDate) date c⟩ := by
  have hnames : (signedRequest h p now).fields.map (·.1.text) = statedNames h p now := by
    simp [signedRequest, canonicalRequest, Canonical.signedFields, statedNames,
      Function.comp_def]
  have hfields : (signedRequest h p now).fields ≠ [] := by
    intro hnil
    rw [hnil, List.map_nil, eq_comm, statedNames, List.map_eq_nil_iff] at hnames
    exact List.ne_nil_of_mem (xDate_mem_signedNames hs) hnames
  obtain ⟨date', hdate', hauth⟩ := exists_dateOf?_of_sign hs
  obtain rfl : date' = date := Option.some.inj (hdate'.symm.trans hdate)
  rw [hauth, statement?_authorization hfields, hnames]

/-- Checking compares the signature over the rebuilt request with the one over the signed
request, at the same time. -/
theorem verifies_iff_signature_eq {date : String}
    (hdate : dateOf? ((prepared h p now).lossy .xDate) = some date) :
    Verifies sent p c ↔
      signature (rebuilt sent (statedNames h p now) p) ((prepared h p now).lossy .xDate) date c
        = signature (signedRequest h p now) ((prepared h p now).lossy .xDate) date c := by
  have hsame : (sent.only (statedNames h p now)).lossy .xDate
      = (prepared h p now).lossy .xDate := by
    rw [statedNames, Headers.lossy_only sent (xDate_mem_signedNames hs)]
    exact Headers.lossy_congr (values_of_sign hs (by decide) fun e => absurd e (by decide))
  unfold Verifies
  simp only [statement?_of_sign hs hdate, Option.some.injEq, exists_eq_left', recomputed?,
    hsame, hdate, Option.map_some]

end Sent

/-- **When what is sent is what was signed.** The header states the names that were signed. The
request that is rebuilt from the fields of these names has the signed text exactly if the
token agrees with the header it replaces. Then the signature verifies, and else only if the
two texts, which differ, share it. No signed field is changed after signing exactly if the
token stays. -/
theorem verifies_iff_and_values_iff {h sent : Headers} {p : Parts} {c : Credential}
    {now : String} (hs : sign h p c now = (sent, .ok ())) :
    let received := rebuilt sent (statedNames h p now) p
    let timestamp := (prepared h p now).lossy .xDate
    (statement? (sent.lossy .authorization)).map (·.names) = some (statedNames h p now) ∧
      (received.text = (signedRequest h p now).text ↔ TokenAgrees h c) ∧
      (Verifies sent p c ↔ TokenAgrees h c ∨ ∃ date, dateOf? timestamp = some date ∧
        Collide received (signedRequest h p now) timestamp date c) ∧
      ((∀ n ∈ Canonical.signedNames (prepared h p now),
        sent.values n = (prepared h p now).values n) ↔ TokenStays h c) := by
  intro received timestamp
  obtain ⟨date, hdate, -⟩ := exists_dateOf?_of_sign hs
  refine ⟨?_, text_rebuilt_eq_iff hs, ?_, values_eq_of_sign_iff hs⟩
  · rw [statement?_of_sign hs hdate, Option.map_some]
  rw [verifies_iff_signature_eq hs hdate, ← text_rebuilt_eq_iff hs]
  constructor
  · intro hsignature
    by_cases htext : received.text = (signedRequest h p now).text
    · exact Or.inl htext
    · exact Or.inr ⟨date, hdate, htext, hsignature⟩
  · rintro (htext | ⟨date', hdate', -, hsignature⟩)
    · exact signature_congr htext _ _ _
    · obtain rfl : date' = date := Option.some.inj (hdate'.symm.trans hdate)
      exact hsignature

/-- A caller who has set `x-security-token` has the old value signed and the new one sent. -/
theorem text_rebuilt_ne_of_old_token :
    let h : Headers := ⟨[(.xDate, ⟨utf8 "20240102T030405Z", by decide⟩),
      (.xSecurityToken, ⟨utf8 "OLD", by decide⟩)]⟩
    let p : Parts := ⟨"GET", "h", "/", [], []⟩
    let c : Credential := ⟨"AK", "SK", "r", "s", some "NEW"⟩
    ∃ sent, sign h p c "" = (sent, .ok ()) ∧
      (rebuilt sent (statedNames h p "") p).text ≠ (signedRequest h p "").text := by
  intro h p c
  have hdate : dateOf? ((prepared h p "").lossy .xDate) = some "20240102" := by decide +kernel
  obtain ⟨v, hv⟩ := HeaderValue.exists_ofText?_eq_some_iff.2
    ((isValueText_authorization (signedRequest h p "") ((prepared h p "").lossy .xDate)
      "20240102" c).trans (by decide))
  have hs : sign h p c "" = (_, .ok ()) :=
    sign_eq_ok_iff.2 ⟨by decide +kernel, _, v, hdate, hv, ⟨utf8 "NEW", by decide⟩,
      by decide +kernel, rfl⟩
  refine ⟨_, hs, fun htext => ?_⟩
  have hagrees := (verifies_iff_and_values_iff hs).2.1.1 htext
  exact absurd (hagrees "NEW" rfl (by decide)) (by decide +kernel)

end Keyed

end Courier
