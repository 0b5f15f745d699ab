import Courier.Proofs.Signing.Preparing
import Mathlib.Data.Option.Basic

/-!
# Requests that are signed alike

Signing reads a request in few places, and two requests that agree there are signed alike
(`Courier.Keyed.sameOutcome_sign`): they get the same value of `authorization`, or the same
error.

| part | what may differ |
|---|---|
| path (`SameParts.segments`) | how its bytes are coded |
| query (`SameParts.query`) | the order of pairs with different keys |
| header (`SameHeader.field`) | names that are not signable, further values of a name, the order of arrival, white space around a value, an old digest of the body, an old `authorization` |
| moment of signing | anything, since the date stands in the header (`SameHeader.date`) |

White space makes one difference: signing replaces an **empty** content type or host, and not
one that is blank. So of two values that differ, neither may be empty
(`Courier.Keyed.SameValue`).

The relation between the two headers (`Courier.Keyed.SameField`) is one for each name, and
whatever signing writes, it writes to both; so it is enough to follow one name through the
writes.
-/

namespace Courier.Keyed

/-! ### Fields that are read alike -/

/-- Values that signing does not tell apart: they are the same, or neither is empty and they
have the same text between white space. -/
def SameValue (v w : HeaderValue) : Prop :=
  v = w ∨ v.bytes ≠ [] ∧ w.bytes ≠ [] ∧ trim v.lossy = trim w.lossy

theorem SameValue.refl (v : HeaderValue) : SameValue v v := Or.inl rfl

theorem SameValue.isEmpty_eq {v w : HeaderValue} (h : SameValue v w) :
    v.bytes.isEmpty = w.bytes.isEmpty := by
  rcases h with rfl | ⟨hv, hw, -⟩
  · rfl
  · rw [List.isEmpty_eq_false_iff.2 hv, List.isEmpty_eq_false_iff.2 hw]

theorem SameValue.trim_eq {v w : HeaderValue} (h : SameValue v w) :
    trim v.lossy = trim w.lossy := by
  rcases h with rfl | ⟨-, -, htrim⟩
  · rfl
  · exact htrim

/-- A name that occurs in neither of two headers, or in both, and then with first values that
signing does not tell apart. -/
def SameField (h h' : Headers) (n : HeaderName) : Prop :=
  Option.Rel SameValue (h.get? n) (h'.get? n)

namespace SameField

variable {h h' : Headers} {n m : HeaderName}

theorem isFilled_eq (hs : SameField h h' n) : isFilled h n = isFilled h' n := by
  unfold SameField at hs
  unfold isFilled
  generalize h.get? n = v at hs
  generalize h'.get? n = w at hs
  cases hs with
  | none => rfl
  | some hvw => exact congrArg not hvw.isEmpty_eq

theorem values_ne_nil_iff (hs : SameField h h' n) : h.values n ≠ [] ↔ h'.values n ≠ [] := by
  unfold SameField Headers.get? at hs
  generalize h.values n = l at hs
  generalize h'.values n = l' at hs
  cases l <;> cases l' <;> simp_all

/-- Signed values are compared without the white space around them. -/
theorem fieldValue_eq (hs : SameField h h' n) :
    Canonical.fieldValue n (h.lossy n) = Canonical.fieldValue n (h'.lossy n) := by
  have htrim : trim (h.lossy n) = trim (h'.lossy n) := by
    unfold SameField at hs
    unfold Headers.lossy
    generalize h.get? n = v at hs
    generalize h'.get? n = w at hs
    cases hs with
    | none => rfl
    | some hvw => exact hvw.trim_eq
  rw [Canonical.fieldValue, Canonical.fieldValue, htrim]

/-- **Writing the same value to both headers** keeps every name alike, and makes the written
one so. -/
theorem insert (hs : n ≠ m → SameField h h' n) (v : HeaderValue) :
    SameField (h.insert m v) (h'.insert m v) n := by
  by_cases hn : n = m
  · subst hn
    unfold SameField
    rw [Headers.get?_insert_self, Headers.get?_insert_self]
    exact .some (SameValue.refl v)
  · unfold SameField
    rw [Headers.get?_insert_of_ne h v hn, Headers.get?_insert_of_ne h' v hn]
    exact hs hn

/-- A default is written to both headers, or to neither. -/
theorem fill (hm : SameField h h' m) (hs : SameField h h' n) (v : HeaderValue) :
    SameField (if isFilled h m then h else h.insert m v)
      (if isFilled h' m then h' else h'.insert m v) n := by
  rw [← hm.isFilled_eq]
  split
  · exact hs
  · exact insert (fun _ => hs) v

end SameField

/-- Headers with the same signable names, apart from the digest of the body, which signing
makes anew; their first values are alike, and that of the date is the same. -/
structure SameHeader (h h' : Headers) : Prop where
  date : ∃ v, h.get? .xDate = some v ∧ h'.get? .xDate = some v
  field : ∀ n, Canonical.isSignable n = true → n ≠ .xContentSha256 → SameField h h' n

/-- The same method, host and body; a path with the same segments, as they decode; and a query
that has for every key the same pairs, in the same order. -/
structure SameParts (p p' : Parts) : Prop where
  method : p.method = p'.method
  host : p.host = p'.host
  segments : Canonical.segments p.path = Canonical.segments p'.path
  query : ∀ key, p.query.filter (·.1 = key) = p'.query.filter (·.1 = key)
  body : p.body = p'.body

/-! ### From one step to the next -/

/-- Prepared headers that are signed alike. -/
structure SamePrepared (g g' : Headers) : Prop where
  date : g.get? .xDate = g'.get? .xDate
  field : ∀ n, Canonical.isSignable n = true → SameField g g' n

section Steps

variable {h h' : Headers}

/-- **Defaults are filled in alike**, at whatever moment. -/
theorem SameHeader.withDefaults (hh : SameHeader h h') (now now' digest : String) :
    SamePrepared (withDefaults h now digest) (withDefaults h' now' digest) := by
  have htype : SameField h h' .contentType := hh.field _ (by decide) (by decide)
  obtain ⟨v, hv, hv'⟩ := hh.date
  have hcontains : ∀ {g : Headers}, g.get? .xDate = some v → g.contains .xDate = true := by
    intro g hg
    rw [Headers.contains_iff]
    rintro hnil
    simp [Headers.get?, hnil] at hg
  rw [withDefaults_of_contains (hcontains hv), withDefaults_of_contains (hcontains hv')]
  refine ⟨?_, fun n hn => ?_⟩
  · have hget : ∀ g : Headers, ((if isFilled g .contentType then g
        else g.insert .contentType defaultContentType).insert
          .xContentSha256 (plainValue digest)).get? .xDate = g.get? .xDate := by
      intro g
      rw [Headers.get?_insert_of_ne _ _ (by decide)]
      split
      · rfl
      · exact Headers.get?_insert_of_ne _ _ (by decide)
    rw [hget, hget, hv, hv']
  · exact SameField.insert (fun hne => htype.fill (hh.field n hn hne) _) _

/-- Writing the same value to both prepared headers, under a name other than that of the
date. -/
theorem SamePrepared.insert {g g' : Headers} (hg : SamePrepared g g') {m : HeaderName}
    (hm : m ≠ .xDate) (v : HeaderValue) : SamePrepared (g.insert m v) (g'.insert m v) where
  date := by
    rw [Headers.get?_insert_of_ne g v hm.symm, Headers.get?_insert_of_ne g' v hm.symm, hg.date]
  field n hn := SameField.insert (fun _ => hg.field n hn) v

/-- **Both headers are prepared, and alike**, or the same host cannot be written to either. -/
theorem SameHeader.prepare (hh : SameHeader h h') (now now' host digest : String) :
    (prepare h now host digest).2 = (prepare h' now' host digest).2 ∧
      SamePrepared (prepare h now host digest).1 (prepare h' now' host digest).1 := by
  have hfilled := hh.withDefaults now now' digest
  unfold Keyed.prepare
  dsimp only
  rw [(hfilled.field .host (by decide)).isFilled_eq]
  split
  · exact ⟨rfl, hfilled⟩
  · unfold Headers.write
    cases HeaderValue.ofText? host with
    | none => exact ⟨rfl, hfilled⟩
    | some v => exact ⟨rfl, hfilled.insert (by decide) v⟩

/-- **Alike headers have the same signed fields.** -/
theorem SamePrepared.signedFields_eq {g g' : Headers} (hg : SamePrepared g g') :
    Canonical.signedFields g = Canonical.signedFields g' := by
  have hnames : Canonical.signedNames g = Canonical.signedNames g' := by
    refine Canonical.signedNames_eq_of_mem_iff fun n => ?_
    rw [Canonical.mem_signedNames, Canonical.mem_signedNames]
    exact and_congr_right fun hn => (hg.field n hn).values_ne_nil_iff
  refine (Canonical.signedFields_eq_iff hnames).2 fun n hn => ?_
  exact (hg.field n (Canonical.mem_signedNames.1 hn).1).fieldValue_eq

/-- Alike requests have the same value of `authorization`, at whatever date. -/
theorem SamePrepared.authorization_eq {g g' : Headers} (hg : SamePrepared g g') {p p' : Parts}
    (hp : SameParts p p') (digest timestamp date : String) (c : Credential) :
    authorization (canonicalRequest g p digest) timestamp date c
      = authorization (canonicalRequest g' p' digest) timestamp date c := by
  have hfields : (canonicalRequest g p digest).fields = (canonicalRequest g' p' digest).fields :=
    hg.signedFields_eq
  have htext : (canonicalRequest g p digest).text = (canonicalRequest g' p' digest).text :=
    Canonical.Request.text_congr hp.method (Canonical.Request.segments_congr hp.segments)
      (sortedByText_eq_iff.2 hp.query) hfields rfl
  rw [authorization, authorization, hfields, signature_congr htext]

/-! ### What signing comes to -/

/-- Two runs of signing that fail with the same error, or that both succeed and write the same
value of `authorization`, and no other value beside it. -/
def SameOutcome (run run' : Headers × Except SigningError Unit) : Prop :=
  (∃ e, run.2 = .error e ∧ run'.2 = .error e) ∨
    ∃ v, run.2 = .ok () ∧ run'.2 = .ok () ∧
      run.1.values .authorization = [v] ∧ run'.1.values .authorization = [v]

/-- From prepared headers on: the same date is read, or none; and the same values can be
written, or not. -/
theorem SamePrepared.finish {g g' : Headers} (hg : SamePrepared g g') {p p' : Parts}
    (hp : SameParts p p') (digest : String) (c : Credential) :
    SameOutcome (finish g p digest c) (finish g' p' digest c) := by
  have hdate : g.lossy .xDate = g'.lossy .xDate := by
    rw [Headers.lossy, Headers.lossy, hg.date]
  unfold Keyed.finish
  dsimp only
  rw [hdate]
  cases dateOf? (g'.lossy .xDate) with
  | none => exact Or.inl ⟨_, rfl, rfl⟩
  | some date =>
    dsimp only
    rw [hg.authorization_eq hp]
    unfold Headers.write
    cases HeaderValue.ofText? (authorization (canonicalRequest g' p' digest)
      (g'.lossy .xDate) date c) with
    | none => exact Or.inl ⟨_, rfl, rfl⟩
    | some v =>
      cases c.sessionToken with
      | none => exact Or.inr ⟨v, rfl, rfl, by simp, by simp⟩
      | some token =>
        dsimp only
        cases HeaderValue.ofText? token with
        | none => exact Or.inl ⟨_, rfl, rfl⟩
        | some w =>
          refine Or.inr ⟨v, rfl, rfl, ?_, ?_⟩
          · rw [Headers.values_insert_of_ne _ w (by decide), Headers.values_insert_self]
          · rw [Headers.values_insert_of_ne _ w (by decide), Headers.values_insert_self]

end Steps

/-- **Requests that agree in what signing reads are signed alike**: both runs fail with the
same error, or both write the same value of `authorization`, at whatever moments they sign. -/
theorem sameOutcome_sign {h h' : Headers} {p p' : Parts} (hh : SameHeader h h')
    (hp : SameParts p p') (c : Credential) (now now' : String) :
    SameOutcome (sign h p c now) (sign h' p' c now') := by
  obtain ⟨hresult, hprepared⟩ := hh.prepare now now' p'.host (sha256Hex p'.body)
  unfold sign
  dsimp only
  rw [hp.host, hp.body]
  generalize prepare h now p'.host (sha256Hex p'.body) = filled at hresult hprepared
  generalize prepare h' now' p'.host (sha256Hex p'.body) = filled' at hresult hprepared
  obtain ⟨g, result⟩ := filled
  obtain ⟨g', result'⟩ := filled'
  obtain rfl : result = result' := hresult
  cases result with
  | error e => exact Or.inl ⟨e, rfl, rfl⟩
  | ok _ => exact hprepared.finish hp (sha256Hex p'.body) c

/-- Another coding of the path, another order of the query, another header, another moment. -/
theorem sameOutcome_sign_of_other_coding :
    let date : HeaderValue := ⟨utf8 "20240102T030405Z", by decide⟩
    let h : Headers := ⟨[(.accept, ⟨utf8 "*/*", by decide⟩), (.xDate, date),
      (.host, ⟨utf8 " example.com:80", by decide⟩)]⟩
    let h' : Headers := ⟨[(.authorization, ⟨utf8 "old", by decide⟩),
      (.host, ⟨utf8 "example.com:80 ", by decide⟩), (.xContentSha256, ⟨utf8 "0", by decide⟩),
      (.xDate, date), (.xDate, ⟨utf8 "later", by decide⟩)]⟩
    let p : Parts := ⟨"GET", "h", "/a%62", [("b", "2"), ("a", "1"), ("a", "0")], utf8 "body"⟩
    let p' : Parts := ⟨"GET", "h", "/%61b", [("a", "1"), ("b", "2"), ("a", "0")], utf8 "body"⟩
    let c : Credential := ⟨"AK", "SK", "r", "s", some "STS"⟩
    SameHeader h h' ∧ SameParts p p' ∧
      SameOutcome (sign h p c "20240102T030405Z") (sign h' p' c "20991231T235959Z") := by
  intro date h h' p p' c
  have hh : SameHeader h h' := by
    refine ⟨⟨date, by decide, by decide⟩, fun n hn hne => ?_⟩
    by_cases hdate : n = .xDate
    · subst hdate
      exact .some (SameValue.refl date)
    by_cases hhost : n = .host
    · subst hhost
      exact .some (Or.inr ⟨by decide, by decide, by decide +kernel⟩)
    -- no other signable name occurs in either
    have hnone : h.get? n = none ∧ h'.get? n = none := by
      have haccept : n ≠ .accept := by
        rintro rfl
        exact absurd hn (by decide)
      have hauthorization : n ≠ .authorization := by
        rintro rfl
        exact absurd hn (by decide)
      simp [h, h', Headers.get?, Headers.values, Ne.symm haccept, Ne.symm hauthorization,
        Ne.symm hne, Ne.symm hdate, Ne.symm hhost]
    rw [SameField, hnone.1, hnone.2]
    exact .none
  have hp : SameParts p p' := by
    refine ⟨rfl, rfl, by decide +kernel, fun key => ?_, rfl⟩
    by_cases ha : key = "a"
    · subst ha
      decide
    · by_cases hb : key = "b"
      · subst hb
        decide
      · simp [p, p', Ne.symm ha, Ne.symm hb]
  exact ⟨hh, hp, sameOutcome_sign hh hp _ _ _⟩

end Courier.Keyed
