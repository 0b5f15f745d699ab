import Courier.Proofs.Headers
import Courier.Proofs.Text.Separated
import Courier.Signing.Canonical

/-!
# The canonical text is unambiguous

The canonical text glues six parts with line feeds, and inside them `/`, `&`, `=` and `:`
stand between texts that anybody may have chosen. None of this can be read in two ways
(`Courier.Canonical.Request.text_eq_text_iff`): requests with the same text have the same
method, the same path segments, the same sorted query, the same signed fields and the same
digest.

The idea is that the whole text is **one list of lines** (`Courier.Canonical.Request.lines`),
of which no line holds a line feed. Method, path and query are its first three lines, the
empty line, the names and the digest its last three, and what is left between them is one line
for each signed field. So the lines are found again by splitting, and then each can be read on
its own:

| part | what stands between | why it is not part of a piece |
|---|---|---|
| path | `/` | the segments are coded |
| query | `&` and `=` | names and values are coded |
| a field | the first `:` | the name is a token |
-/

namespace Courier.Canonical

/-! ### Paths -/

/-- The segments of a path, decoded. -/
def segments (p : String) : List Bytes :=
  (splitAll '/' p).map fun segment => Percent.decode (utf8 segment)

theorem segments_ne_nil (p : String) : segments p ≠ [] := by
  simp [segments, splitAll, List.splitOn_ne_nil]

/-- Only the empty path has no more than one segment that stands for no bytes. -/
theorem segments_eq_singleton_nil_iff {p : String} : segments p = [[]] ↔ p = "" := by
  constructor
  · intro h
    obtain ⟨s, hs, hdecoded⟩ := List.map_eq_singleton_iff.1 h
    obtain rfl : s = "" := Utf8.utf8_injective (Percent.decode_eq_nil_iff.1 hdecoded)
    have hjoined : "/".intercalate (splitAll '/' p) = p := intercalate_splitAll (by decide) p
    rw [← hjoined, hs]
    rfl
  · rintro rfl
    rfl

theorem path_eq (p : String) : path p = "/".intercalate ((segments p).map Percent.encode) := by
  simp [path, segments, Function.comp_def]

/-- A coding does not hold a character that codings do not use. -/
theorem notMem_encode {c : Char} (hc : Percent.isCodeChar c = false) (b : Bytes) :
    c ∉ (Percent.encode b).toList := by
  intro h
  rw [Percent.isCodeChar_of_mem_encode h] at hc
  exact absurd hc (by decide)

/-- **A canonical path determines the segments**, as they decode. -/
theorem path_eq_path_iff {p q : String} : path p = path q ↔ segments p = segments q := by
  constructor
  · intro h
    rw [path_eq, path_eq] at h
    have hcoded := intercalate_inj (c := '/') (by decide) (by simpa using segments_ne_nil p)
      (by simpa using segments_ne_nil q) ?_ ?_ h
    · exact (List.map_inj_right fun _ _ => Percent.encode_inj.1).1 hcoded
    all_goals
      intro s hs
      obtain ⟨b, -, rfl⟩ := List.mem_map.1 hs
      exact notMem_encode (by decide) b
  · intro h
    rw [path_eq, path_eq, h]

/-! ### Queries -/

theorem pair_inj {kv kv' : String × String} : pair kv = pair kv' ↔ kv = kv' := by
  constructor
  · intro h
    obtain ⟨hk, hv⟩ := append_inj_of_notMem (c := '=') (by decide)
      (notMem_encode (by decide) _) (notMem_encode (by decide) _) h
    exact Prod.ext (Utf8.utf8_injective (Percent.encode_inj.1 hk))
      (Utf8.utf8_injective (Percent.encode_inj.1 hv))
  · rintro rfl
    rfl

theorem pair_ne_empty (kv : String × String) : pair kv ≠ "" := by
  simp [pair]

theorem notMem_pair {c : Char} (hc : Percent.isCodeChar c = false) (he : c ≠ '=')
    (kv : String × String) : c ∉ (pair kv).toList := by
  simp [pair, notMem_encode hc, he]

/-- **A canonical query determines the sorted pairs.** -/
theorem query_eq_query_iff {q q' : List (String × String)} :
    query q = query q' ↔ sortPairs q = sortPairs q' := by
  constructor
  · intro h
    have hcoded := intercalate_inj_of_ne_empty (c := '&') (by decide) ?_ ?_ h
    · exact (List.map_inj_right fun _ _ => pair_inj.1).1 hcoded
    all_goals
      intro s hs
      obtain ⟨kv, -, rfl⟩ := List.mem_map.1 hs
      exact ⟨pair_ne_empty kv, notMem_pair (by decide) (by decide) kv⟩
  · intro h
    rw [query, query, h]

/-! ### Fields -/

/-- The line of a signed field, without the line feed at its end. -/
def fieldLine (f : HeaderName × String) : String := f.1.text ++ ":" ++ f.2

/-- The name of a field holds token characters only. -/
theorem notMem_text {c : Char} (hc : isTokenChar c = false) (n : HeaderName) :
    c ∉ n.text.toList := by
  intro h
  rw [HeaderName.isTokenChar_of_mem h] at hc
  exact absurd hc (by decide)

/-- A field line determines its field: the name ends at the first colon. -/
theorem fieldLine_inj {f g : HeaderName × String} : fieldLine f = fieldLine g ↔ f = g := by
  constructor
  · intro h
    obtain ⟨hname, hvalue⟩ := append_inj_of_notMem (c := ':') (by decide)
      (notMem_text (by decide) f.1) (notMem_text (by decide) g.1) h
    obtain ⟨⟨name, legal⟩, value⟩ := f
    obtain ⟨⟨name', legal'⟩, value'⟩ := g
    subst hname hvalue
    rfl
  · rintro rfl
    rfl

/-- Canonical values hold no other characters than the text they are made from. -/
theorem mem_of_mem_fieldValue {c : Char} {n : HeaderName} {s : String}
    (h : c ∈ (fieldValue n s).toList) : c ∈ s.toList := by
  unfold fieldValue at h
  split at h
  · refine mem_of_mem_trim ?_
    unfold withoutDefaultPort at h
    split at h
    · rename_i name port hcut
      split at h
      · exact mem_of_splitAtFirst? hcut h
      · exact h
    · exact h
  · exact mem_of_mem_trim h

/-- The value of a signed field fits on a line. -/
theorem notMem_of_mem_signedFields {h : Headers} {f : HeaderName × String}
    (hf : f ∈ signedFields h) : '\n' ∉ f.2.toList := by
  intro hmem
  obtain ⟨n, -, rfl⟩ := List.mem_map.1 hf
  exact h.notMem_lossy (by decide) (by decide) n (mem_of_mem_fieldValue hmem)

/-- A field fits on a line if its value does. -/
theorem notMem_fieldLine {f : HeaderName × String} (hf : '\n' ∉ f.2.toList) :
    '\n' ∉ (fieldLine f).toList := by
  have hname := notMem_text (c := '\n') (by decide) f.1
  simp [fieldLine, hname, hf]

/-! ### The whole text -/

/-- The lines of the canonical text. -/
def Request.lines (r : Request) : List String :=
  [r.method, Canonical.path (if r.path = "" then "/" else r.path), Canonical.query r.query]
    ++ (r.fields.map fieldLine ++ ["", fieldNames r.fields, r.bodyDigest])

/-- Field lines with their ends, and the lines after them, are lines like all others. -/
theorem intercalate_map_fieldLine (fields : List (HeaderName × String)) {rest : List String}
    (hrest : rest ≠ []) :
    "\n".intercalate (fields.map fieldLine ++ rest)
      = fieldLines fields ++ "\n".intercalate rest := by
  induction fields with
  | nil => simp [fieldLines]
  | cons f fields ih =>
    have hlines : fieldLines (f :: fields) = fieldLine f ++ "\n" ++ fieldLines fields := by
      cases fields <;> simp [fieldLines, fieldLine]
    rw [List.map_cons, List.cons_append, String.intercalate_cons_of_ne_nil (by simp [hrest]), ih,
      hlines]
    simp only [String.append_assoc]

/-- **The canonical text is its lines**, joined by line feeds. -/
theorem Request.text_eq (r : Request) : r.text = "\n".intercalate r.lines := by
  simp only [Request.lines, List.cons_append, List.nil_append]
  rw [String.intercalate_cons_cons, String.intercalate_cons_cons,
    String.intercalate_cons_of_ne_nil (by simp), intercalate_map_fieldLine _ (by simp)]
  simp [Request.text, String.append_assoc]

/-- Each part that is not coded fits on its line. -/
structure Request.FitsLines (r : Request) : Prop where
  method : '\n' ∉ r.method.toList
  values : ∀ f ∈ r.fields, '\n' ∉ f.2.toList
  bodyDigest : '\n' ∉ r.bodyDigest.toList

/-- **No line holds a line feed.** -/
theorem Request.FitsLines.notMem_line {r : Request} (hr : r.FitsLines) :
    ∀ line ∈ r.lines, '\n' ∉ line.toList := by
  have hpath : ∀ p, '\n' ∉ (Canonical.path p).toList := by
    intro p
    rw [path_eq]
    refine notMem_intercalate (by decide) fun s hs => ?_
    obtain ⟨b, -, rfl⟩ := List.mem_map.1 hs
    exact notMem_encode (by decide) b
  have hquery : '\n' ∉ (Canonical.query r.query).toList := by
    refine notMem_intercalate (by decide) fun s hs => ?_
    obtain ⟨kv, -, rfl⟩ := List.mem_map.1 hs
    exact notMem_pair (by decide) (by decide) kv
  have hnames : '\n' ∉ (fieldNames r.fields).toList := by
    refine notMem_intercalate (by decide) fun s hs => ?_
    obtain ⟨f, -, rfl⟩ := List.mem_map.1 hs
    exact notMem_text (by decide) f.1
  intro line hline
  simp only [Request.lines, List.mem_append, List.mem_cons, List.mem_map, List.not_mem_nil,
    or_false] at hline
  rcases hline with (rfl | rfl | rfl) | ⟨f, hf, rfl⟩ | rfl | rfl | rfl
  · exact hr.method
  · exact hpath _
  · exact hquery
  · exact notMem_fieldLine (hr.values f hf)
  · simp
  · exact hnames
  · exact hr.bodyDigest

/-- The segments of the path of a request; an empty path counts as the root. -/
def Request.segments (r : Request) : List Bytes :=
  Canonical.segments (if r.path = "" then "/" else r.path)

/-- Paths with the same segments have them also where an empty one counts as the root. -/
theorem Request.segments_congr {r r' : Request}
    (h : Canonical.segments r.path = Canonical.segments r'.path) : r.segments = r'.segments := by
  have hempty : r.path = "" ↔ r'.path = "" := by
    rw [← segments_eq_singleton_nil_iff, h, segments_eq_singleton_nil_iff]
  by_cases hr : r.path = ""
  · rw [Request.segments, Request.segments, if_pos hr, if_pos (hempty.1 hr)]
  · rw [Request.segments, Request.segments, if_neg hr, if_neg (mt hempty.2 hr), h]

/-- **What the canonical text is made from.** -/
theorem Request.text_congr {r r' : Request} (hmethod : r.method = r'.method)
    (hsegments : r.segments = r'.segments) (hquery : sortPairs r.query = sortPairs r'.query)
    (hfields : r.fields = r'.fields) (hdigest : r.bodyDigest = r'.bodyDigest) :
    r.text = r'.text := by
  rw [Request.text, Request.text, hmethod, path_eq_path_iff.2 hsegments,
    query_eq_query_iff.2 hquery, hfields, hdigest]

/-- **The canonical text is unambiguous.** -/
theorem Request.text_eq_text_iff {r r' : Request} (hr : r.FitsLines) (hr' : r'.FitsLines) :
    r.text = r'.text ↔ r.method = r'.method ∧ r.segments = r'.segments
      ∧ sortPairs r.query = sortPairs r'.query ∧ r.fields = r'.fields
      ∧ r.bodyDigest = r'.bodyDigest := by
  constructor
  · intro h
    rw [Request.text_eq, Request.text_eq] at h
    have hlines : r.lines = r'.lines := intercalate_inj (c := '\n') (by decide)
      (by simp [Request.lines]) (by simp [Request.lines]) hr.notMem_line hr'.notMem_line h
    simp only [Request.lines, List.cons_append, List.nil_append, List.cons.injEq] at hlines
    obtain ⟨hmethod, hpath, hquery, hrest⟩ := hlines
    -- three lines stand after the field lines on both sides, so the field lines are as many
    obtain ⟨hfields, hend⟩ := List.append_inj' hrest rfl
    simp only [List.cons.injEq, and_true, true_and] at hend
    exact ⟨hmethod, path_eq_path_iff.1 hpath, query_eq_query_iff.1 hquery,
      (List.map_inj_right fun _ _ => fieldLine_inj.1).1 hfields, hend.2⟩
  · rintro ⟨hmethod, hpath, hquery, hfields, hdigest⟩
    exact Request.text_congr hmethod hpath hquery hfields hdigest

/-- The method stands in front of everything else. -/
theorem Request.text_eq_method_append (r : Request) :
    r.text = r.method ++ Request.text { r with method := "" } := by
  simp [Request.text, String.append_assoc]

/-- Where all parts but the fields are the same, the fields are found again whatever the
method is. -/
theorem Request.text_with_fields_eq_iff {r : Request} {fields : List (HeaderName × String)}
    (hr : Request.FitsLines { r with method := "" })
    (hfields : ∀ f ∈ fields, '\n' ∉ f.2.toList) :
    Request.text { r with fields := fields } = r.text ↔ fields = r.fields := by
  have hr' : Request.FitsLines { r with method := "", fields := fields } :=
    ⟨hr.method, hfields, hr.bodyDigest⟩
  constructor
  · intro h
    rw [Request.text_eq_method_append, Request.text_eq_method_append r] at h
    exact ((Request.text_eq_text_iff hr' hr).1 ((String.append_right_inj r.method).1 h)).2.2.2.1
  · rintro rfl
    rfl

end Courier.Canonical
