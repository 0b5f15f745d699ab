import Courier.Proofs.Signing.Keyed

/-!
# What preparing leaves

Preparing keeps what may be signed as it is, and writes the rest
(`Courier.Keyed.preparedNames`):

| name | kept | else written |
|---|---|---|
| `content-type` | if its first value is not empty | a default |
| `x-date` | if it occurs | the moment of signing |
| `x-content-sha256` | never | the digest of the body |
| `host` | if its first value is not empty | the given host, if that can stand in a header |

A header that this leaves (`Courier.Keyed.IsPrepared`) stays as it is when it is prepared again
(`Courier.Keyed.IsPrepared.values_prepared`): what was written is found there, or it is written
once more.
-/

namespace Courier.Keyed

/-- Whether there is something to keep is settled by the values. -/
theorem isFilled_congr {h h' : Headers} {n : HeaderName} (hv : h.values n = h'.values n) :
    isFilled h n = isFilled h' n := by
  rw [isFilled, isFilled, Headers.get?, Headers.get?, hv]

/-- With a date in the header, the moment of signing is not read. -/
theorem withDefaults_of_contains {h : Headers} (hdate : h.contains .xDate = true)
    (now digest : String) :
    withDefaults h now digest
      = (if isFilled h .contentType then h else h.insert .contentType defaultContentType).insert
          .xContentSha256 (plainValue digest) := by
  have hkept : (if isFilled h .contentType then h
      else h.insert .contentType defaultContentType).contains .xDate = true := by
    split
    · exact hdate
    · rw [Headers.contains_iff, Headers.values_insert_of_ne _ _ (by decide)]
      exact Headers.contains_iff.1 hdate
  rw [withDefaults, if_pos hkept]

section Kept

variable {h : Headers} {p : Parts} {now : String}

/-- The host is kept, or the given one is written. -/
theorem prepare_eq (h : Headers) (now host digest : String) :
    prepare h now host digest
      = if isFilled h .host then (withDefaults h now digest, .ok ())
        else (withDefaults h now digest).write .host host := by
  have hhost : (withDefaults h now digest).values .host = h.values .host :=
    values_withDefaults_of_ne (by decide) (by decide) (by decide)
  rw [prepare, isFilled_congr hhost]

/-- Apart from the host, a prepared header is the header with its defaults. -/
theorem values_prepared_of_ne_host {n : HeaderName} (hn : n ≠ .host) :
    (prepared h p now).values n = (withDefaults h now (sha256Hex p.body)).values n := by
  rw [prepared, prepare_eq]
  split
  · rfl
  · exact Headers.values_write_of_ne hn

/-- A host with a first value that is not empty is kept. -/
theorem values_prepared_host (hf : isFilled h .host = true) :
    (prepared h p now).values .host = h.values .host := by
  rw [prepared, prepare_eq, if_pos hf]
  exact values_withDefaults_of_ne (by decide) (by decide) (by decide)

/-- A content type is kept, or the default is written. -/
theorem values_prepared_contentType (h : Headers) (p : Parts) (now : String) :
    (prepared h p now).values .contentType
      = if isFilled h .contentType then h.values .contentType else [defaultContentType] := by
  rw [values_prepared_of_ne_host (by decide), withDefaults,
    Headers.values_insert_of_ne _ _ (by decide), values_default_of_ne _ _ (by decide)]
  split
  · rfl
  · exact Headers.values_insert_self _ _ _

/-- A date is kept. -/
theorem values_prepared_xDate (hd : h.contains .xDate = true) :
    (prepared h p now).values .xDate = h.values .xDate := by
  rw [values_prepared_of_ne_host (by decide), withDefaults_of_contains hd,
    Headers.values_insert_of_ne _ _ (by decide), values_default_of_ne _ _ (by decide)]

/-- A prepared header has a date. -/
theorem contains_xDate_prepared (h : Headers) (p : Parts) (now : String) :
    (prepared h p now).contains .xDate = true := by
  rw [Headers.contains_iff, values_prepared_of_ne_host (by decide), withDefaults,
    Headers.values_insert_of_ne _ _ (by decide)]
  generalize (if isFilled h .contentType then h
    else h.insert .contentType defaultContentType) = g
  split
  · rename_i hd
    exact Headers.contains_iff.1 hd
  · simp

/-- The digest is always that of the body. -/
theorem values_prepared_xContentSha256 (h : Headers) (p : Parts) (now : String) :
    (prepared h p now).values .xContentSha256 = [plainValue (sha256Hex p.body)] := by
  rw [values_prepared_of_ne_host (by decide), withDefaults]
  exact Headers.values_insert_self _ _ _

/-- Without a host to keep, the given one is written, if that can stand in a header. -/
theorem prepare_of_not_isFilled (hf : isFilled h .host = false) (now host digest : String) :
    prepare h now host digest = (withDefaults h now digest).write .host host := by
  rw [prepare_eq, if_neg (by simp [hf])]

end Kept

/-! ### Preparing again -/

/-- A header in which preparing finds everything that it needs, or what it would write. -/
structure IsPrepared (g : Headers) (p : Parts) : Prop where
  contentType : isFilled g .contentType = true
  date : g.contains .xDate = true
  digest : g.values .xContentSha256 = [plainValue (sha256Hex p.body)]
  host : isFilled g .host = true ∨
    ∃ v, HeaderValue.ofText? p.host = some v ∧ g.values .host = [v]

section Again

variable {g h : Headers} {p : Parts} {now : String}

/-- **Preparing leaves a prepared header**, unless it fails. -/
theorem isPrepared_prepared (hok : (prepare h now p.host (sha256Hex p.body)).2 = .ok ()) :
    IsPrepared (prepared h p now) p where
  contentType := by
    have hvalues := values_prepared_contentType h p now
    split at hvalues
    · rename_i hf
      rw [isFilled_congr hvalues, hf]
    · rw [isFilled, Headers.get?, hvalues]
      decide
  date := contains_xDate_prepared h p now
  digest := values_prepared_xContentSha256 h p now
  host := by
    by_cases hf : isFilled h .host = true
    · exact Or.inl (by rw [isFilled_congr (values_prepared_host hf), hf])
    rw [Bool.not_eq_true] at hf
    unfold prepared
    rw [prepare_of_not_isFilled hf] at hok ⊢
    unfold Headers.write at hok ⊢
    cases hv : HeaderValue.ofText? p.host with
    | none => simp [hv] at hok
    | some v => exact Or.inr ⟨v, rfl, Headers.values_insert_self _ _ v⟩

namespace IsPrepared

/-- Other names do not count. -/
theorem congr (hg : IsPrepared g p) (hv : ∀ n ∈ preparedNames, h.values n = g.values n) :
    IsPrepared h p where
  contentType := by rw [isFilled_congr (hv _ (by decide)), hg.contentType]
  date := by
    rw [Headers.contains_iff, hv _ (by decide)]
    exact Headers.contains_iff.1 hg.date
  digest := by rw [hv _ (by decide), hg.digest]
  host := by
    rw [isFilled_congr (hv _ (by decide)), hv _ (by decide)]
    exact hg.host

/-- Preparing does not fail on a prepared header. -/
theorem prepare_eq_ok (hg : IsPrepared g p) (now : String) :
    (prepare g now p.host (sha256Hex p.body)).2 = .ok () := by
  rw [prepare_eq]
  split
  · rfl
  · rename_i hf
    obtain ⟨v, hv, -⟩ := hg.host.resolve_left hf
    simp [Headers.write, hv]

/-- **Preparing again changes nothing.** -/
theorem values_prepared (hg : IsPrepared g p) (now : String) (n : HeaderName) :
    (prepared g p now).values n = g.values n := by
  by_cases htype : n = .contentType
  · rw [htype, values_prepared_contentType, if_pos hg.contentType]
  by_cases hdate : n = .xDate
  · rw [hdate, values_prepared_xDate hg.date]
  by_cases hdigest : n = .xContentSha256
  · rw [hdigest, values_prepared_xContentSha256, hg.digest]
  by_cases hhost : n = .host
  · subst hhost
    by_cases hf : isFilled g .host = true
    · exact values_prepared_host hf
    obtain ⟨v, hv, hvalues⟩ := hg.host.resolve_left hf
    rw [prepared, prepare_of_not_isFilled (by simpa using hf), hvalues]
    simp [Headers.write, hv]
  · exact values_prepared_of_ne (by simp [preparedNames, htype, hdate, hdigest, hhost])

end IsPrepared

end Again

end Courier.Keyed
