import Courier.Proofs.Signing.Canonical
import Mathlib.Data.List.Forall2

/-!
# The coding of a path is canonical

There is one way to write a byte string in percent coding, and one way to write a path.

* The texts that codings are, are made of plain characters and of codes with upper-case digits,
  and a byte that stands for itself is not coded (`Courier.Percent.IsCoding`). Each of them is
  the coding of the bytes that it stands for (`Courier.Percent.exists_encode_eq_iff`).
* A path is coded segment by segment, so its slashes stay where they are
  (`Courier.Canonical.splitAll_path`), and decoding the coded path finds the segments again
  (`Courier.Canonical.segments_path`).

Everything else follows from the two: coding a path twice is coding it once, and paths are coded
alike exactly if they have the same segments (`Courier.Canonical.isCanonical_path`). A percent
sign that begins no code is a byte like others. It is decoded to itself and then coded, wherever
it stands.
-/

namespace Courier

namespace Percent

/-! ### The texts that are codings -/

/-- Whether a character stands for itself. -/
def isPlainChar (c : Char) : Bool := c.isAlphanum || "-_.~".toList.contains c

/-- A text of plain characters and of codes: a percent sign and two upper-case digits, of a byte
that is not plain. -/
inductive IsCoding : List Char → Prop
  | nil : IsCoding []
  | plain {c : Char} {cs : List Char} (hc : isPlainChar c = true) (h : IsCoding cs) :
    IsCoding (c :: cs)
  | code {m n : Nat} {cs : List Char} (hm : m < 16) (hn : n < 16)
    (hbyte : isPlain (UInt8.ofNat (16 * m + n)) = false) (h : IsCoding cs) :
    IsCoding ('%' :: Hex.upper m :: Hex.upper n :: cs)

/-- Plain characters are among those of tokens. -/
theorem isTokenChar_of_isPlainChar {c : Char} (hc : isPlainChar c = true) :
    isTokenChar c = true := by
  unfold isPlainChar at hc
  rw [Bool.or_eq_true, List.contains_iff_mem] at hc
  rcases hc with hc | hc
  · rw [isTokenChar, hc, Bool.true_or]
  · have hall : "-_.~".toList.all isTokenChar = true := by decide
    exact List.all_eq_true.1 hall c hc

/-- A plain character is the coding of its byte. -/
theorem encodeByte_of_isPlainChar {c : Char} (hc : isPlainChar c = true) :
    encodeByte (UInt8.ofNat c.toNat) = [c] := by
  have key : ∀ n < 127, isPlainChar (Char.ofNat n) = true →
      encodeByte (UInt8.ofNat n) = [Char.ofNat n] := by decide +kernel
  have hcoded := key c.toNat (isTokenChar_bounds (isTokenChar_of_isPlainChar hc)).2
  rw [Char.ofNat_toNat] at hcoded
  exact hcoded hc

/-- The coding of a byte that is not plain. -/
theorem encodeByte_of_code {m n : Nat} (hm : m < 16) (hn : n < 16)
    (hbyte : isPlain (UInt8.ofNat (16 * m + n)) = false) :
    encodeByte (UInt8.ofNat (16 * m + n)) = ['%', Hex.upper m, Hex.upper n] := by
  have hvalue : (UInt8.ofNat (16 * m + n)).toNat = 16 * m + n :=
    Utf8.toNat_ofNat_of_lt (by omega)
  have hhigh : (16 * m + n) / 16 = m := by omega
  have hlow : (16 * m + n) % 16 = n := by omega
  rw [encodeByte, hbyte, if_neg Bool.false_ne_true, Hex.pair, hvalue, hhigh, hlow]

/-- The coding of a byte in front of a coding is one. -/
theorem IsCoding.encodeByte_append {cs : List Char} (h : IsCoding cs) (b : UInt8) :
    IsCoding (encodeByte b ++ cs) := by
  have hlt := b.toNat_lt
  by_cases hb : isPlain b = true
  · have key : ∀ n < 256, isPlain (UInt8.ofNat n) = true →
        isPlainChar (Char.ofNat n) = true := by decide +kernel
    have hplain := key b.toNat hlt
    rw [UInt8.ofNat_toNat] at hplain
    rw [encodeByte, if_pos hb]
    exact .plain (hplain hb) h
  · have hjoined : 16 * (b.toNat / 16) + b.toNat % 16 = b.toNat := Nat.div_add_mod ..
    rw [encodeByte, if_neg hb]
    refine .code (by omega) (by omega) ?_ h
    rw [hjoined, UInt8.ofNat_toNat]
    exact Bool.eq_false_iff.2 hb

/-- **Every coding is made of plain characters and of codes.** -/
theorem isCoding_encode (b : Bytes) : IsCoding (encode b).toList := by
  rw [encode, String.toList_ofList]
  induction b with
  | nil => exact .nil
  | cons x b ih => exact ih.encodeByte_append x

/-- **The texts that are codings.** -/
theorem exists_encode_eq_iff {s : String} : (∃ b, encode b = s) ↔ IsCoding s.toList := by
  constructor
  · rintro ⟨b, rfl⟩
    exact isCoding_encode b
  · intro h
    have hbytes : ∃ b : Bytes, b.flatMap encodeByte = s.toList := by
      generalize s.toList = cs at h
      induction h with
      | nil => exact ⟨[], rfl⟩
      | @plain c cs hc _ ih =>
        obtain ⟨b, rfl⟩ := ih
        refine ⟨UInt8.ofNat c.toNat :: b, ?_⟩
        rw [List.flatMap_cons, encodeByte_of_isPlainChar hc, List.singleton_append]
      | @code m n cs hm hn hbyte _ ih =>
        obtain ⟨b, rfl⟩ := ih
        refine ⟨UInt8.ofNat (16 * m + n) :: b, ?_⟩
        rw [List.flatMap_cons, encodeByte_of_code hm hn hbyte]
        rfl
    obtain ⟨b, hb⟩ := hbytes
    exact ⟨b, by rw [encode, hb, String.ofList_toList]⟩

/-- A coding is the coding of the bytes that it stands for. -/
theorem encode_decode_iff {s : String} : encode (decode (utf8 s)) = s ↔ IsCoding s.toList := by
  rw [← exists_encode_eq_iff]
  constructor
  · intro h
    exact ⟨_, h⟩
  · rintro ⟨b, rfl⟩
    rw [decode_encode]

end Percent

namespace Canonical

/-! ### Paths -/

/-- **The slashes of a path stay where they are**, and between them stand the codings of its
segments. -/
theorem splitAll_path (p : String) : splitAll '/' (path p) = (segments p).map Percent.encode := by
  rw [path_eq]
  refine splitAll_intercalate (by decide) (by simpa using segments_ne_nil p) fun s hs => ?_
  obtain ⟨b, -, rfl⟩ := List.mem_map.1 hs
  exact notMem_encode (by decide) b

theorem length_segments (p : String) : (segments p).length = (splitAll '/' p).length :=
  List.length_map ..

/-- **A coded path has the segments of the path.** -/
theorem segments_path (p : String) : segments (path p) = segments p := by
  rw [segments, splitAll_path, List.map_map]
  simp [Function.comp_def, Percent.decode_encode]

/-- **A path is as it is coded** exactly if its segments are codings. -/
theorem path_eq_self_iff {p : String} :
    path p = p ↔ ∀ s ∈ splitAll '/' p, Percent.IsCoding s.toList := by
  constructor
  · intro h s hs
    rw [← h, splitAll_path] at hs
    obtain ⟨b, -, rfl⟩ := List.mem_map.1 hs
    exact Percent.isCoding_encode b
  · intro h
    have hcoded : (splitAll '/' p).map (fun s => Percent.encode (Percent.decode (utf8 s)))
        = splitAll '/' p := by
      conv_rhs => rw [← List.map_id (splitAll '/' p)]
      exact List.map_congr_left fun s hs => Percent.encode_decode_iff.2 (h s hs)
    rw [path, hcoded, intercalate_splitAll (by decide)]

/-- A character divides a text into one piece more than it occurs. -/
theorem length_splitAll (c : Char) (s : String) :
    (splitAll c s).length = s.toList.count c + 1 := by
  rw [splitAll, List.length_map]
  induction s.toList with
  | nil => rfl
  | cons d cs ih =>
    rw [List.splitOn_cons_eq_if_modifyHead, List.count_cons]
    split
    · rw [List.length_cons, ih]
    · rw [List.length_modifyHead, ih, Nat.add_zero]

/-- **A coded slash divides nothing.** -/
theorem path_coded_slash_ne (p q : String) : path (p ++ "%2F" ++ q) ≠ path (p ++ "/" ++ q) := by
  intro h
  have hlength := congrArg List.length (path_eq_path_iff.1 h)
  simp only [length_segments, length_splitAll, String.toList_append, List.count_append] at hlength
  have hcoded : "%2F".toList.count '/' = 0 := by decide
  have hslash : "/".toList.count '/' = 1 := by decide
  omega

/-- Segments that stand for the same bytes. -/
def SameBytes (s t : String) : Prop := Percent.decode (utf8 s) = Percent.decode (utf8 t)

/-- Paths have the same decoded segments if they have as many, and these stand for the same bytes
one by one. -/
theorem segments_eq_iff_forall₂ {p q : String} :
    segments p = segments q ↔ List.Forall₂ SameBytes (splitAll '/' p) (splitAll '/' q) := by
  rw [segments, segments, ← List.forall₂_eq_eq_eq, List.forall₂_map_left_iff,
    List.forall₂_map_right_iff]
  rfl

/-- **The coding of a path is canonical.** Bytes are read back from their coding, which is made
of plain characters and of codes with upper-case digits. A coded path has as many segments as the
path, is its own coding – as is every path whose segments are codings – and is the coding of
exactly the paths that have as many segments, which stand for the same bytes one by one. So a
coded slash is never taken for one that divides. -/
theorem isCanonical_path :
    (∀ b, Percent.decode (utf8 (Percent.encode b)) = b ∧ Percent.IsCoding (Percent.encode b).toList)
      ∧ (∀ p, (splitAll '/' (path p)).length = (splitAll '/' p).length ∧ path (path p) = path p
        ∧ (path p = p ↔ ∀ s ∈ splitAll '/' p, Percent.IsCoding s.toList))
      ∧ (∀ p q, path p = path q ↔ List.Forall₂ SameBytes (splitAll '/' p) (splitAll '/' q))
      ∧ ∀ p q, path (p ++ "%2F" ++ q) ≠ path (p ++ "/" ++ q) := by
  refine ⟨fun b => ⟨Percent.decode_encode b, Percent.isCoding_encode b⟩,
    fun p => ⟨?_, ?_, path_eq_self_iff⟩, fun p q => ?_, path_coded_slash_ne⟩
  · rw [← length_segments, segments_path, length_segments]
  · exact path_eq_path_iff.2 (segments_path p)
  · rw [path_eq_path_iff, segments_eq_iff_forall₂]

/-- A percent sign near the end of a segment is coded, and a code is written in upper case. -/
example : path "/100%/%4/%2f%zz" = "/100%25/%254/%2F%25zz" := by decide +kernel

end Canonical

end Courier
