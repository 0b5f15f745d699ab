import Courier.Proofs.Url.Coding
import Courier.Url.Segments

/-!
# Reading the segments of a path again

The segments that a path leaves are written characters, are not divided by a slash, and do not
stand for a step (`Courier.UrlReader.IsSegment`). This is all that the reader of a path looks
at, so the segments that were read and written are read again
(`Courier.UrlReader.Trail.segments_ofPath`).

What is said here is said of the paths whose slashes and backslashes separate alike and which
are not local: those of the schemes with a server.
-/

namespace Courier.UrlReader

/-! ### Pieces between separators -/

/-- No piece holds a separator. -/
theorem of_mem_splitOnP {α : Type} {p : α → Bool} {l s : List α} (hs : s ∈ l.splitOnP p) {c : α}
    (hc : c ∈ s) : p c = false := by
  induction l generalizing s with
  | nil =>
    obtain rfl : s = [] := by simpa using hs
    cases hc
  | cons x l ih =>
    rw [List.splitOnP_cons_eq_if_modifyHead] at hs
    split at hs
    · rcases List.mem_cons.1 hs with rfl | hs
      · cases hc
      · exact ih hs hc
    · rename_i hx
      obtain ⟨t, ts, hsplit⟩ := List.exists_cons_of_ne_nil (List.splitOnP_ne_nil p l)
      rw [hsplit, List.modifyHead_cons] at hs
      rw [hsplit] at ih
      rcases List.mem_cons.1 hs with rfl | hs
      · rcases List.mem_cons.1 hc with rfl | hc
        · exact Bool.eq_false_iff.2 hx
        · exact ih List.mem_cons_self hc
      · exact ih (List.mem_cons_of_mem _ hs) hc

/-- Pieces that are written with a separator after all but the last are split again. -/
theorem splitOnP_append_flatMap {α : Type} {p : α → Bool} {sep : α} (hsep : p sep = true)
    {s : List α} {l : List (List α)} (hs : ∀ c ∈ s, p c = false)
    (hl : ∀ t ∈ l, ∀ c ∈ t, p c = false) :
    (s ++ l.flatMap (sep :: ·)).splitOnP p = s :: l := by
  induction l generalizing s with
  | nil => rw [List.flatMap_nil, List.append_nil, List.splitOnP_eq_singleton hs]
  | cons t l ih =>
    rw [List.forall_mem_cons] at hl
    rw [List.flatMap_cons, List.cons_append, List.splitOnP_append_cons _ _ hsep,
      List.splitOnP_eq_singleton hs, ih hl.1 hl.2, List.singleton_append]

/-! ### Segments -/

/-- What a segment of a path is, after it was read. -/
structure IsSegment (s : List Char) : Prop where
  written : ∀ c ∈ s, UrlCoding.isWritten UrlCoding.path c = true
  notSlash : ∀ c ∈ s, isSlash true c = false
  notDot : isDot s = false
  notDoubleDot : isDoubleDot s = false

theorem isSegment_nil : IsSegment [] := by
  refine ⟨?_, ?_, by decide, by decide⟩ <;> simp

/-- Codes are made of other characters than slashes. -/
theorem notSlash_of_isCodeChar {c : Char} (h : Percent.isCodeChar c = true) :
    isSlash true c = false := by
  rw [Bool.eq_false_iff]
  intro hslash
  simp only [isSlash, Bool.true_and, Bool.or_eq_true, beq_iff_eq] at hslash
  rcases hslash with rfl | rfl <;> exact absurd h (by decide)

/-- The coding of a text without slashes is a segment, if it stands for no step. -/
theorem isSegment_encode {s : List Char} (hs : ∀ c ∈ s, isSlash true c = false)
    (hdot : isDot (UrlCoding.encode UrlCoding.path s) = false)
    (hdouble : isDoubleDot (UrlCoding.encode UrlCoding.path s) = false) :
    IsSegment (UrlCoding.encode UrlCoding.path s) where
  written _ hc := UrlCoding.isPlace_path.isWritten_of_mem_encode hc
  notSlash _ hc :=
    (UrlCoding.isPlace_path.mem_or_isCodeChar_of_mem_encode hc).elim (hs _) notSlash_of_isCodeChar
  notDot := hdot
  notDoubleDot := hdouble

/-- A text without white space and controls has no tab and no line break. -/
theorem solid_of_lt {s : List Char} (hs : ∀ c ∈ s, 0x20 < c.toNat) : solid s = s := by
  refine List.filter_eq_self.2 fun c hc => ?_
  rw [Bool.not_eq_true', Bool.eq_false_iff]
  intro h
  have hlt := hs c hc
  simp only [isBreak, Bool.or_eq_true, beq_iff_eq] at h
  rcases h with (rfl | rfl) | rfl <;> exact absurd hlt (by decide)

theorem IsSegment.encode_solid {s : List Char} (hs : IsSegment s) :
    UrlCoding.encode UrlCoding.path (solid s) = s := by
  rw [solid_of_lt fun c hc => UrlCoding.isPlace_path.lt_of_isWritten (hs.written c hc),
    UrlCoding.encode_of_isWritten hs.written]

namespace Trail

/-! ### What a path leaves -/

/-- A trail of segments. -/
def IsWritten (t : Trail) : Prop := ∀ s ∈ t.segments, IsSegment s

theorem IsWritten.up {t : Trail} (h : t.IsWritten) : t.up.IsWritten := by
  unfold Trail.up
  split
  · split
    · exact h
    · exact fun s hs => h s (List.dropLast_subset _ hs)
  · exact h

theorem IsWritten.down {t : Trail} (h : t.IsWritten) {s : List Char} (hs : IsSegment s) :
    (t.down s).IsWritten := by
  intro x hx
  rcases List.mem_append.1 hx with hx | hx
  · exact h x hx
  · rwa [List.mem_singleton.1 hx]

/-- A step of a path that is not local. -/
theorem step_false (last : Bool) (t : Trail) (s : List Char) :
    step false last t s =
      let written := UrlCoding.encode UrlCoding.path (solid s)
      let close (t : Trail) : Trail := if last then t.down [] else t
      if isDoubleDot written then close t.up
      else if isDot written then close t
      else t.down written := by
  simp [step]

theorem IsWritten.close {t : Trail} (h : t.IsWritten) (last : Bool) :
    (if last then t.down [] else t).IsWritten := by
  split
  · exact h.down isSegment_nil
  · exact h

theorem IsWritten.step {t : Trail} (h : t.IsWritten) (last : Bool) {s : List Char}
    (hs : ∀ c ∈ s, isSlash true c = false) : (t.step false last s).IsWritten := by
  rw [step_false]
  dsimp only
  split
  · exact h.up.close last
  · split
    · exact h.close last
    · rename_i hdouble hdot
      refine h.down (isSegment_encode (fun c hc => hs c ?_) (Bool.eq_false_iff.2 hdot)
        (Bool.eq_false_iff.2 hdouble))
      exact List.mem_of_mem_filter hc

/-- The last segment of a path always leaves one. -/
theorem step_last_ne_nil (t : Trail) (s : List Char) : (t.step false true s).segments ≠ [] := by
  rw [step_false]
  dsimp only
  split
  · simp [down]
  · split <;> simp [down]

theorem IsWritten.walk {t : Trail} (h : t.IsWritten) {l : List (List Char)}
    (hl : ∀ s ∈ l, ∀ c ∈ s, isSlash true c = false) : (t.walk false l).IsWritten := by
  fun_induction Trail.walk false t l with
  | case1 t => exact h
  | case2 t s => exact h.step true (hl s List.mem_cons_self)
  | case3 t s l hne ih =>
    exact ih (h.step false (hl s List.mem_cons_self)) fun x hx => hl x (List.mem_cons_of_mem _ hx)

theorem walk_ne_nil (t : Trail) {l : List (List Char)} (hl : l ≠ []) :
    (t.walk false l).segments ≠ [] := by
  fun_induction Trail.walk false t l with
  | case1 t => exact absurd rfl hl
  | case2 t s => exact step_last_ne_nil t s
  | case3 t s l hne ih => exact ih (by simpa using hne)

/-- **What a path leaves**: segments, and at least one. -/
theorem isWritten_ofPath (cs : List Char) :
    (ofPath true false cs).IsWritten ∧ (ofPath true false cs).segments ≠ [] := by
  have hstart : start.IsWritten := by
    intro s hs
    cases hs
  exact ⟨hstart.walk fun _ hs _ hc => of_mem_splitOnP hs hc,
    walk_ne_nil _ (List.splitOnP_ne_nil _ _)⟩

/-! ### Reading it again -/

/-- A segment is a step down to itself. -/
theorem step_of_isSegment (last : Bool) (t : Trail) {s : List Char} (hs : IsSegment s) :
    t.step false last s = t.down s := by
  simp [step_false, hs.encode_solid, hs.notDot, hs.notDoubleDot]

theorem walk_of_isSegment (t : Trail) {l : List (List Char)} (hl : ∀ s ∈ l, IsSegment s) :
    t.walk false l = { t with segments := t.segments ++ l } := by
  fun_induction Trail.walk false t l with
  | case1 t => simp
  | case2 t s => rw [step_of_isSegment _ _ (hl s List.mem_cons_self), down]
  | case3 t s l hne ih =>
    rw [ih fun x hx => hl x (List.mem_cons_of_mem _ hx),
      step_of_isSegment _ _ (hl s List.mem_cons_self), down]
    simp

/-- **Segments that are written with slashes between them are read again.** -/
theorem segments_ofPath {s : List Char} {l : List (List Char)} (hs : IsSegment s)
    (hl : ∀ t ∈ l, IsSegment t) :
    (ofPath true false (s ++ l.flatMap ('/' :: ·))).segments = s :: l := by
  rw [ofPath, splitOnP_append_flatMap (by decide) hs.notSlash fun t ht => (hl t ht).notSlash,
    walk_of_isSegment _ (List.forall_mem_cons.2 ⟨hs, hl⟩)]
  rfl

end Trail

end Courier.UrlReader
