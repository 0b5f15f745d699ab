import Courier.Percent
import Courier.Proofs.Text.Utf8
import Courier.Url.Coding
import Mathlib.Data.List.Basic

/-!
# Coding what is coded

The coding of an address leaves alone what it has written: a percent sign is never reserved,
nor is a digit. So at each place of an address the characters are of two kinds, those that are
written there (`Courier.UrlCoding.isWritten`) and those that are coded, and a coding holds
characters of the first kind only (`Courier.UrlCoding.IsPlace.isWritten_of_mem_encode`). A text
of these is its own coding (`Courier.UrlCoding.encode_of_isWritten`).
-/

namespace Courier.UrlCoding

/-- Whether a character stands for itself where the bytes of a set are coded. -/
def isWritten (set : UInt8 → Bool) (c : Char) : Bool :=
  c.toNat < 0x80 && !set (UInt8.ofNat c.toNat)

/-- What the sets of all places have in common: white space is coded, and what codes are made
of is not. -/
structure IsPlace (set : UInt8 → Bool) : Prop where
  control : ∀ b, UrlCoding.control b = true → set b = true
  space : set 0x20 = true
  percent : set 0x25 = false
  digit : ∀ n < 16, set (Hex.upperByte n) = false

theorem isPlace_path : IsPlace path where
  control b h := by simp [path, fragment, h]
  space := by decide
  percent := by decide
  digit := by decide

theorem isPlace_userinfo : IsPlace userinfo where
  control b h := by simp [userinfo, path, fragment, h]
  space := by decide
  percent := by decide
  digit := by decide

theorem isPlace_specialQuery : IsPlace specialQuery where
  control b h := by simp [specialQuery, query, h]
  space := by decide
  percent := by decide
  digit := by decide

theorem isPlace_fragment : IsPlace fragment where
  control b h := by simp [fragment, h]
  space := by decide
  percent := by decide
  digit := by decide

/-- A character of ASCII is one byte. -/
theorem utf8EncodeChar_of_lt {c : Char} (h : c.toNat < 0x80) :
    String.utf8EncodeChar c = [UInt8.ofNat c.toNat] := by
  have hv : c.val.toNat ≤ 0x7F := Nat.le_of_lt_succ h
  unfold String.utf8EncodeChar
  dsimp only
  rw [if_pos hv]
  rfl

/-- A text of ASCII has one byte for each character. -/
theorem utf8_ofList_of_lt {cs : List Char} (h : ∀ c ∈ cs, c.toNat < 0x80) :
    utf8 (String.ofList cs) = cs.map fun c => UInt8.ofNat c.toNat := by
  rw [utf8, String.toList_ofList, List.flatMap_congr fun c hc => utf8EncodeChar_of_lt (h c hc),
    ← List.map_eq_flatMap]

/-- A byte of ASCII is that of a character of ASCII. -/
theorem eq_ofNat_of_mem_utf8EncodeChar {b : UInt8} {c : Char} (hb : b < 0x80)
    (h : b ∈ String.utf8EncodeChar c) : c = Char.ofNat b.toNat := by
  unfold String.utf8EncodeChar at h
  dsimp only at h
  simp only [UInt8.lt_iff_toNat_lt, UInt8.reduceToNat] at hb
  split_ifs at h <;> simp only [List.mem_cons, List.not_mem_nil, or_false] at h
  · rw [h, Utf8.toNat_ofNat_of_lt (by omega)]
    exact (Char.ofNat_toNat c).symm
  -- every byte of a longer code bears a mark
  · rcases h with h | h <;> rw [h, Utf8.toNat_ofNat_of_lt (by omega)] at hb <;> omega
  · rcases h with h | h | h <;> rw [h, Utf8.toNat_ofNat_of_lt (by omega)] at hb <;> omega
  · rcases h with h | h | h | h <;> rw [h, Utf8.toNat_ofNat_of_lt (by omega)] at hb <;> omega

variable {set : UInt8 → Bool}

/-- **A text of written characters is its own coding.** -/
theorem encode_of_isWritten {cs : List Char} (h : ∀ c ∈ cs, isWritten set c = true) :
    encode set cs = cs := by
  have hone : ∀ c ∈ cs, encodeBytes set (String.utf8EncodeChar c) = [c] := by
    intro c hc
    have hw := h c hc
    simp only [isWritten, Bool.and_eq_true, decide_eq_true_eq, Bool.not_eq_true'] at hw
    have hn : (UInt8.ofNat c.toNat).toNat = c.toNat := Utf8.toNat_ofNat_of_lt (by omega)
    rw [utf8EncodeChar_of_lt hw.1]
    simp [encodeBytes, hw.2, hn]
  rw [encode, List.flatMap_congr hone, List.flatMap_singleton']

namespace IsPlace

/-- **What a coding holds**: characters of the text that are written, percent signs and
digits. -/
theorem of_mem_encode (h : IsPlace set) {cs : List Char} {c : Char} (hc : c ∈ encode set cs) :
    (c ∈ cs ∧ isWritten set c = true) ∨ c = '%' ∨ ∃ n < 16, c = Hex.upper n := by
  obtain ⟨d, hd, hdc⟩ := List.mem_flatMap.1 hc
  obtain ⟨b, hb, hbc⟩ := List.mem_flatMap.1 hdc
  have hlt := b.toNat_lt
  split at hbc
  · simp only [Hex.pair, List.mem_cons, List.not_mem_nil, or_false] at hbc
    rcases hbc with hbc | hbc | hbc
    · exact Or.inr (Or.inl hbc)
    · exact Or.inr (Or.inr ⟨b.toNat / 16, by omega, hbc⟩)
    · exact Or.inr (Or.inr ⟨b.toNat % 16, by omega, hbc⟩)
  · rename_i hset
    obtain rfl := List.mem_singleton.1 hbc
    have hn : (Char.ofNat b.toNat).toNat = b.toNat := Utf8.toNat_charOfNat (Or.inl (by omega))
    -- a byte beyond ASCII would have been coded
    have hascii : b.toNat < 0x80 := by
      have hcontrol : ¬ UrlCoding.control b = true := mt (h.control b) hset
      simp only [UrlCoding.control, Bool.or_eq_true, decide_eq_true_eq, not_or,
        UInt8.lt_iff_toNat_lt, UInt8.reduceToNat] at hcontrol
      omega
    refine Or.inl ⟨?_, ?_⟩
    · have hb' : b < 0x80 := by
        simpa only [UInt8.lt_iff_toNat_lt, UInt8.reduceToNat] using hascii
      exact eq_ofNat_of_mem_utf8EncodeChar hb' hb ▸ hd
    · simpa [isWritten, hn, hascii] using hset

/-- **A coding holds written characters only.** -/
theorem isWritten_of_mem_encode (h : IsPlace set) {cs : List Char} {c : Char}
    (hc : c ∈ encode set cs) : isWritten set c = true := by
  rcases h.of_mem_encode hc with ⟨-, hw⟩ | rfl | ⟨n, hn, rfl⟩
  · exact hw
  · simp [isWritten, h.percent]
  · have hascii : ∀ n < 16, (Hex.upper n).toNat < 0x80 := by decide
    have hdigit : set (UInt8.ofNat (Hex.upper n).toNat) = false := h.digit n hn
    simp [isWritten, hascii n hn, hdigit]

/-- **A coding holds no other characters** than the text and those that codes are made of. -/
theorem mem_or_isCodeChar_of_mem_encode (h : IsPlace set) {cs : List Char} {c : Char}
    (hc : c ∈ encode set cs) : c ∈ cs ∨ Percent.isCodeChar c = true := by
  rcases h.of_mem_encode hc with ⟨hmem, -⟩ | rfl | ⟨n, hn, rfl⟩
  · exact Or.inl hmem
  · exact Or.inr (by decide)
  · have key : ∀ n < 16, Percent.isCodeChar (Hex.upper n) = true := by decide
    exact Or.inr (key n hn)

/-- No white space and no control is written. -/
theorem lt_of_isWritten (h : IsPlace set) {c : Char} (hc : isWritten set c = true) :
    0x20 < c.toNat := by
  simp only [isWritten, Bool.and_eq_true, decide_eq_true_eq, Bool.not_eq_true'] at hc
  by_contra hle
  have hset : set (UInt8.ofNat c.toNat) = true := by
    rcases Nat.lt_or_eq_of_le (Nat.not_lt.1 hle) with hlt | heq
    · refine h.control _ ?_
      simp only [UrlCoding.control, Bool.or_eq_true, decide_eq_true_eq, UInt8.lt_iff_toNat_lt,
        Utf8.toNat_ofNat_of_lt (show c.toNat < 256 by omega), UInt8.reduceToNat]
      omega
    · rw [heq]
      exact h.space
  rw [hset] at hc
  cases hc.2

end IsPlace

/-! ### Decoding -/

/-- Addresses are decoded like the parts of a canonical text. -/
theorem decode_eq (b : Bytes) : decode b = Percent.decode b := by
  fun_induction decode b <;> simp_all [Percent.decode, Percent.pairValue?]

/-- Bytes without a percent sign stand for themselves. -/
theorem decode_of_notMem {b : Bytes} (h : 37 ∉ b) : decode b = b := by
  rw [decode_eq]
  induction b with
  | nil => rfl
  | cons x b ih =>
    rw [List.mem_cons, not_or] at h
    rw [Percent.decode_cons_of_ne (Ne.symm h.1), ih h.2]

end Courier.UrlCoding
