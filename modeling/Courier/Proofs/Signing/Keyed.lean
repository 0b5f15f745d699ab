import Courier.Proofs.Signing.Canonical
import Courier.Proofs.Signing.SignedFields
import Courier.Signing.Keyed

/-!
# What signing covers

Everything that signing covers is the canonical request of the header that signing prepared
(`Courier.Keyed.signedRequest`). Signing is followed step by step first: what it does to the
values of a name, and what it did if it succeeded (`Courier.Keyed.sign_eq_ok_iff`). So that
request is **what is signed** (`Courier.Keyed.signs_signedRequest`): the signature that is sent is
made from its text.

The text is unambiguous, whatever the header, the method without a line feed, the path, the query
and the body are (`Courier.Keyed.text_signedRequest_eq_iff`), so a signature over it cannot be
carried over to another request.
-/

namespace Courier.Keyed

/-- The header before signing, as far as it could be prepared. -/
def prepared (h : Headers) (p : Parts) (now : String) : Headers :=
  (prepare h now p.host (sha256Hex p.body)).1

/-- The canonical request that is signed. -/
def signedRequest (h : Headers) (p : Parts) (now : String) : Canonical.Request :=
  canonicalRequest (prepared h p now) p (sha256Hex p.body)

/-! ### What signing does to the header -/

/-- The names that signing writes before it signs. -/
def preparedNames : List HeaderName := [.contentType, .xDate, .xContentSha256, .host]

/-- A default leaves all other names. -/
theorem values_default_of_ne {b : Prop} [Decidable b] (g : Headers) {n m : HeaderName}
    (v : HeaderValue) (hn : n ≠ m) : (if b then g else g.insert m v).values n = g.values n := by
  split
  · rfl
  · exact g.values_insert_of_ne v hn

theorem values_withDefaults_of_ne {h : Headers} {now digest : String} {n : HeaderName}
    (htype : n ≠ .contentType) (hdate : n ≠ .xDate) (hsha : n ≠ .xContentSha256) :
    (withDefaults h now digest).values n = h.values n := by
  rw [withDefaults, Headers.values_insert_of_ne _ _ hsha, values_default_of_ne _ _ hdate,
    values_default_of_ne _ _ htype]

/-- **Preparing touches no other name.** -/
theorem values_prepared_of_ne {h : Headers} {p : Parts} {now : String} {n : HeaderName}
    (hn : n ∉ preparedNames) : (prepared h p now).values n = h.values n := by
  simp only [preparedNames, List.mem_cons, List.not_mem_nil, or_false, not_or] at hn
  obtain ⟨htype, hdate, hsha, hhost⟩ := hn
  unfold prepared prepare
  dsimp only
  split
  · exact values_withDefaults_of_ne htype hdate hsha
  · rw [Headers.values_write_of_ne hhost]
    exact values_withDefaults_of_ne htype hdate hsha

/-- The signature depends on the text alone. -/
theorem signature_congr {r r' : Canonical.Request} (h : r.text = r'.text)
    (timestamp date : String) (c : Credential) :
    signature r timestamp date c = signature r' timestamp date c := by
  rw [signature, signature, h]

/-- **When the value of `authorization` can be written**: everything that signing adds to
access key, date and scope can stand in a header. -/
theorem isValueText_authorization (r : Canonical.Request) (timestamp date : String)
    (c : Credential) :
    HeaderValue.isValueText (authorization r timestamp date c)
      = (HeaderValue.isValueText c.accessKey && HeaderValue.isValueText date
        && HeaderValue.isValueText c.region && HeaderValue.isValueText c.service) := by
  have hnames : HeaderValue.isValueText (Canonical.fieldNames r.fields) = true := by
    refine HeaderValue.isValueText_of_visible fun d hd => ?_
    rcases mem_or_mem_of_mem_intercalate hd with hd | ⟨s, hs, hd⟩
    · obtain rfl : d = ';' := by simpa using hd
      decide
    · obtain ⟨f, -, rfl⟩ := List.mem_map.1 hs
      exact isTokenChar_bounds (HeaderName.isTokenChar_of_mem hd)
  have hsignature : HeaderValue.isValueText (signature r timestamp date c) = true := by
    refine HeaderValue.isValueText_of_visible fun d hd => ?_
    obtain ⟨n, hn, rfl⟩ := Hex.exists_of_mem_ofBytes hd
    have hdigit : ∀ n < 16, 32 ≤ (Hex.lower n).toNat ∧ (Hex.lower n).toNat < 127 := by decide
    exact hdigit n hn
  have hfixed : ∀ s ∈ [algorithm, " Credential=", "/", "/request", ", SignedHeaders=",
      ", Signature="], HeaderValue.isValueText s = true := by decide
  simp only [List.forall_mem_cons] at hfixed
  obtain ⟨halgorithm, hcredential, hslash, hrequest, hsigned, hend, -⟩ := hfixed
  simp only [authorization, scope, HeaderValue.isValueText_append, hnames, hsignature,
    halgorithm, hcredential, hslash, hrequest, hsigned, hend, Bool.true_and, Bool.and_true,
    Bool.and_assoc]

/-- **What signing did, if it succeeded**: the header could be prepared, the date and the
value of `authorization` could be made, and with a session token that value was written and
then the token. -/
theorem sign_eq_ok_iff {h sent : Headers} {p : Parts} {c : Credential} {now : String} :
    sign h p c now = (sent, .ok ()) ↔
      (prepare h now p.host (sha256Hex p.body)).2 = .ok () ∧
      ∃ date v, dateOf? ((prepared h p now).lossy .xDate) = some date ∧
        HeaderValue.ofText? (authorization (signedRequest h p now)
          ((prepared h p now).lossy .xDate) date c) = some v ∧
        match c.sessionToken with
        | none => sent = (prepared h p now).insert .authorization v
        | some token => ∃ w, HeaderValue.ofText? token = some w ∧
          sent = ((prepared h p now).insert .authorization v).insert .xSecurityToken w := by
  unfold sign signedRequest prepared
  dsimp only
  generalize prepare h now p.host (sha256Hex p.body) = filled
  obtain ⟨g, result⟩ := filled
  cases result with
  | error e => simp
  | ok _ =>
    dsimp only
    unfold finish
    dsimp only
    cases hdate : dateOf? (g.lossy .xDate) with
    | none => simp
    | some date =>
      dsimp only
      unfold Headers.write
      cases hv : HeaderValue.ofText? (authorization (canonicalRequest g p (sha256Hex p.body))
        (g.lossy .xDate) date c) with
      | none => simp [hv]
      | some v =>
        cases c.sessionToken with
        | none => simp [hv, eq_comm]
        | some token =>
          cases hw : HeaderValue.ofText? token with
          | none => simp [hw]
          | some w => simp [hv, hw, eq_comm]

/-- What is written as `authorization`, if signing succeeded. The token that may follow it leaves
it as it is. -/
theorem exists_authorization_of_sign {h sent : Headers} {p : Parts} {c : Credential}
    {now : String} (hs : sign h p c now = (sent, .ok ())) :
    ∃ date v, dateOf? ((prepared h p now).lossy .xDate) = some date ∧
      HeaderValue.ofText? (authorization (signedRequest h p now)
        ((prepared h p now).lossy .xDate) date c) = some v ∧
      sent.values .authorization = [v] := by
  obtain ⟨-, date, v, hdate, hv, hsent⟩ := sign_eq_ok_iff.1 hs
  refine ⟨date, v, hdate, hv, ?_⟩
  cases hc : c.sessionToken with
  | none =>
    rw [hc] at hsent
    rw [hsent, Headers.values_insert_self]
  | some token =>
    rw [hc] at hsent
    obtain ⟨w, -, rfl⟩ := hsent
    rw [Headers.values_insert_of_ne _ w (by decide), Headers.values_insert_self]

/-- **A canonical request is what signing signs.** With whatever credential it succeeds, the only
value of `authorization` in the header that it leaves names the fields of this request, and its
signature is the keyed digest of the text to sign, which holds the digest of the text of this
request. -/
def Signs (h : Headers) (p : Parts) (now : String) (r : Canonical.Request) : Prop :=
  ∀ c sent, sign h p c now = (sent, .ok ()) →
    ∃ timestamp date v, dateOf? timestamp = some date ∧ sent.values .authorization = [v] ∧
      HeaderValue.ofText? (algorithm ++ " Credential=" ++ c.accessKey ++ "/" ++ scope date c
        ++ ", SignedHeaders=" ++ Canonical.fieldNames r.fields
        ++ ", Signature=" ++ Hex.ofBytes (hmacSha256
            (signingKey c.secretKey date c.region c.service)
            (utf8 ("\n".intercalate [algorithm, timestamp, scope date c,
              sha256Hex (utf8 r.text)])))) = some v

theorem signs_signedRequest (h : Headers) (p : Parts) (now : String) :
    Signs h p now (signedRequest h p now) := by
  intro c sent hs
  obtain ⟨date, v, hdate, hv, hvalues⟩ := exists_authorization_of_sign hs
  exact ⟨_, date, v, hdate, hvalues, hv⟩

/-! ### The text is unambiguous -/

/-- A canonical request fits its lines, as soon as its method does. -/
theorem fitsLines_canonicalRequest (g : Headers) {p : Parts} (hm : '\n' ∉ p.method.toList) :
    (canonicalRequest g p (sha256Hex p.body)).FitsLines where
  method := hm
  values _ hf := Canonical.notMem_of_mem_signedFields hf
  bodyDigest := by
    intro hmem
    obtain ⟨n, hn, he⟩ := Hex.exists_of_mem_ofBytes hmem
    have hdigit : ∀ n < 16, '\n' ≠ Hex.lower n := by decide
    exact hdigit n hn he

/-- **The text that is signed is unambiguous.** Two runs of signing sign one canonical request
each, and if the texts of these are the same, so are the method, the path segments, the sorted
query, the signed fields and the digest of the body. -/
theorem text_signedRequest_eq_iff {h h' : Headers} {p p' : Parts} {now now' : String}
    (hm : '\n' ∉ p.method.toList) (hm' : '\n' ∉ p'.method.toList) :
    Signs h p now (signedRequest h p now) ∧ Signs h' p' now' (signedRequest h' p' now') ∧
    ((signedRequest h p now).text = (signedRequest h' p' now').text ↔
      p.method = p'.method
        ∧ (signedRequest h p now).segments = (signedRequest h' p' now').segments
        ∧ Canonical.sortPairs p.query = Canonical.sortPairs p'.query
        ∧ Canonical.signedFields (prepared h p now) = Canonical.signedFields (prepared h' p' now')
        ∧ sha256Hex p.body = sha256Hex p'.body) :=
  ⟨signs_signedRequest h p now, signs_signedRequest h' p' now',
    Canonical.Request.text_eq_text_iff (fitsLines_canonicalRequest _ hm)
      (fitsLines_canonicalRequest _ hm')⟩

/-- A coded slash in a segment is no slash between segments. -/
theorem text_signedRequest_ne_of_coded_slash :
    (signedRequest .empty ⟨"GET", "h", "/a/b", [], []⟩ "20240102T030405Z").text
      ≠ (signedRequest .empty ⟨"GET", "h", "/a%2Fb", [], []⟩ "20240102T030405Z").text := by
  intro h
  have hsegments := ((text_signedRequest_eq_iff (by decide) (by decide)).2.2.1 h).2.1
  exact absurd (congrArg List.length hsegments) (by decide)

end Courier.Keyed
