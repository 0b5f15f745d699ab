import Courier.Gzip.PrefixCode
import Courier.Proofs.Gzip.Bits
import Mathlib.Data.List.Basic

/-!
# The words of a prefix code

The codes of a prefix code are its **words** (`Courier.Gzip.PrefixCode.IsWord`). Words of one length
are consecutive numbers, written with the most significant bit first, and the first of them is twice
what comes after the last word that is one bit shorter (`Courier.Gzip.PrefixCode.firstFrom`).

A symbol is read level by level, and at each level the bits read so far are compared with the first
word of their length. They are a word if they are less than the number of words above it; if they
are more, so is everything that begins with them. So **what is read is the word that a source begins
with** (`Courier.Gzip.PrefixCode.reads_symbol?`), even of a code with fewer or more words than fit.

Whether the words fit is a matter of counting. A word takes up as many words of the greatest length
as begin with it, and a code is complete if its words take up all of them
(`Courier.Gzip.PrefixCode.isFull_iff`).
-/

namespace Courier.Gzip.PrefixCode

/-! ### Words -/

/-- The number that bits spell, the most significant first, behind those of another number. -/
def spelled (code : Nat) (w : List Bool) : Nat := w.foldl (fun n b => 2 * n + b.toNat) code

/-- The first word at a level, given the first word at the uppermost. -/
def firstFrom (first : Nat) : List (List Nat) → Nat → Nat
  | _, 0 => first
  | [], l + 1 => firstFrom (2 * first) [] l
  | level :: rest, l + 1 => firstFrom (2 * (first + level.length)) rest l

/-- The words of levels whose uppermost has the given first word, behind the bits of a number. -/
def IsWordOf (levels : List (List Nat)) (code first symbol : Nat) (w : List Bool) : Prop :=
  ∃ l k, w.length = l + 1 ∧ (levels.getD l [])[k]? = some symbol ∧
    spelled code w = firstFrom first levels l + k

/-- **The word of a symbol**: its number is that of the first word of its length and the number of
symbols that come before it among those with words of this length. -/
def IsWord (c : PrefixCode) (symbol : Nat) (w : List Bool) : Prop :=
  IsWordOf c.levels 0 0 symbol w

/-- No word is empty. -/
theorem IsWord.length_pos {c : PrefixCode} {symbol : Nat} {w : List Bool}
    (h : c.IsWord symbol w) : 0 < w.length := by
  obtain ⟨l, k, hlength, -⟩ := h
  omega

theorem spelled_lt (code : Nat) (w : List Bool) :
    spelled code w < (code + 1) * 2 ^ w.length := by
  induction w generalizing code with
  | nil => simp [spelled]
  | cons b w ih =>
    have hb := Bool.toNat_le b
    calc spelled code (b :: w) < (2 * code + b.toNat + 1) * 2 ^ w.length := ih _
      _ ≤ (2 * (code + 1)) * 2 ^ w.length := Nat.mul_le_mul_right _ (by omega)
      _ = (code + 1) * 2 ^ (b :: w).length := by
        rw [List.length_cons, Nat.pow_succ, Nat.mul_comm 2, Nat.mul_assoc, Nat.mul_comm 2]

theorem le_firstFrom (first : Nat) (levels : List (List Nat)) (l : Nat) :
    first * 2 ^ l ≤ firstFrom first levels l := by
  induction l generalizing first levels with
  | zero => simp [firstFrom]
  | succ l ih =>
    have hstep : first * 2 ^ (l + 1) = (2 * first) * 2 ^ l := by
      rw [Nat.pow_succ, Nat.mul_comm (2 ^ l), ← Nat.mul_assoc, Nat.mul_comm first]
    rw [hstep]
    cases levels with
    | nil => exact ih (2 * first) []
    | cons level rest =>
      exact (Nat.mul_le_mul_right _ (by omega)).trans (ih (2 * (first + level.length)) rest)

/-- What begins with a word of a level is spelled by no word below it. -/
theorem length_le_of_spelled_eq {code first size k l : Nat} {levels : List (List Nat)}
    {w : List Bool} (hlength : w.length = l + 1)
    (h : spelled code w = firstFrom (2 * (first + size)) levels l + k) : size ≤ code - first := by
  have hupper : spelled code w < 2 * (code + 1) * 2 ^ l := by
    have hlt := spelled_lt code w
    rwa [hlength, Nat.pow_succ, Nat.mul_comm (2 ^ l), ← Nat.mul_assoc, Nat.mul_comm _ 2] at hlt
  have hlower := le_firstFrom (2 * (first + size)) levels l
  have hlt : 2 * (first + size) < 2 * (code + 1) :=
    Nat.lt_of_mul_lt_mul_right (a := 2 ^ l) (by omega)
  omega

/-- **A word is found at a level or below it**: the bits up to a level are a word of the level, or
else begin a word of a level below. -/
theorem isWordOf_cons {level : List Nat} {rest : List (List Nat)} {code first symbol : Nat}
    (h : first ≤ 2 * code) {b : Bool} {v : List Bool} :
    IsWordOf (level :: rest) code first symbol (b :: v) ↔
      level[2 * code + b.toNat - first]?.elim
        (IsWordOf rest (2 * code + b.toNat) (2 * (first + level.length)) symbol v)
        fun found => symbol = found ∧ v = [] := by
  constructor
  · rintro ⟨l, k, hlength, hsymbol, hspelled⟩
    have hv : v.length = l := Nat.succ.inj hlength
    cases l with
    | zero =>
      obtain rfl : v = [] := List.length_eq_zero_iff.1 hv
      have hk : 2 * code + b.toNat = first + k := hspelled
      have hfound : level[2 * code + b.toNat - first]? = some symbol := by
        rw [hk, Nat.add_sub_cancel_left]
        exact hsymbol
      rw [hfound]
      exact ⟨rfl, rfl⟩
    | succ l =>
      have hover := length_le_of_spelled_eq hv hspelled
      rw [List.getElem?_eq_none hover]
      exact ⟨l, k, hv, hsymbol, hspelled⟩
  · intro hv
    cases hfound : level[2 * code + b.toNat - first]? with
    | some found =>
      rw [hfound] at hv
      obtain ⟨rfl, rfl⟩ := hv
      refine ⟨0, 2 * code + b.toNat - first, rfl, hfound, ?_⟩
      have hcode : spelled code [b] = 2 * code + b.toNat := rfl
      rw [hcode, firstFrom]
      omega
    | none =>
      rw [hfound] at hv
      obtain ⟨l, k, hlength, hsymbol, hspelled⟩ := hv
      exact ⟨l + 1, k, congrArg Nat.succ hlength, hsymbol, hspelled⟩

/-- **Reading from a level on**, with the bits that were read above it. -/
theorem reads_descend? (levels : List (List Nat)) {code first : Nat} (h : first ≤ 2 * code) :
    Reads (descend? levels code first) (IsWordOf levels code first) := by
  induction levels generalizing code first with
  | nil =>
    refine (Reads.never.of_eq fun s => rfl).congr fun symbol w => ?_
    simp [IsWordOf]
  | cons level rest ih =>
    have hlevel (b : Bool) : Reads
        (fun s => level[2 * code + b.toNat - first]?.elim
          (descend? rest (2 * code + b.toNat) (2 * (first + level.length)) s)
          fun symbol => some (symbol, s))
        fun symbol v => IsWordOf (level :: rest) code first symbol (b :: v) := by
      simp only [isWordOf_cons h]
      cases hfound : level[2 * code + b.toNat - first]? with
      | some found => exact Reads.pure found
      | none =>
        have hover := List.getElem?_eq_none_iff.1 hfound
        exact ih (by omega)
    refine ((BitSource.reads_bit?.bind hlevel).of_eq fun s => ?_).congr fun symbol w => ?_
    · rw [descend?]
      cases s.bit? with
      | none => rfl
      | some r =>
        dsimp only [Option.bind_some]
        cases level[2 * code + r.1.toNat - first]? <;> rfl
    · constructor
      · rintro ⟨b, _, v, rfl, hv, rfl⟩
        exact hv
      · intro hw
        cases w with
        | nil =>
          obtain ⟨l, k, hlength, -⟩ := hw
          cases hlength
        | cons b v => exact ⟨b, [b], v, rfl, hw, rfl⟩

/-- **What is read is a word.** -/
theorem reads_symbol? (c : PrefixCode) : Reads c.symbol? c.IsWord :=
  reads_descend? c.levels (Nat.le_refl 0)

/-! ### Complete codes -/

/-- How many words of the greatest length the words of levels take up. -/
def weight : List (List Nat) → Nat
  | [] => 0
  | level :: rest => level.length * 2 ^ rest.length + weight rest

/-- **A code is complete** if its words take up all words of the greatest length. -/
def IsComplete (c : PrefixCode) : Prop := weight c.levels = 2 ^ c.levels.length

theorem spare?_eq_some_iff {levels : List (List Nat)} {free spare : Nat} :
    spare? levels free = some spare ↔ free * 2 ^ levels.length = weight levels + spare := by
  induction levels generalizing free with
  | nil => simp [spare?, weight]
  | cons level rest ih =>
    have hdouble : free * 2 ^ (level :: rest).length = 2 * free * 2 ^ rest.length := by
      rw [List.length_cons, Nat.pow_succ, Nat.mul_comm (2 ^ rest.length), ← Nat.mul_assoc,
        Nat.mul_comm free]
    rw [spare?, hdouble, weight]
    split
    next hlt =>
      have hmany : (2 * free + 1) * 2 ^ rest.length ≤ level.length * 2 ^ rest.length :=
        Nat.mul_le_mul_right _ hlt
      have hpos : 0 < 2 ^ rest.length := Nat.two_pow_pos _
      rw [Nat.add_mul] at hmany
      refine iff_of_false (by simp) ?_
      omega
    next hle =>
      have hfit : level.length * 2 ^ rest.length ≤ 2 * free * 2 ^ rest.length :=
        Nat.mul_le_mul_right _ (Nat.le_of_not_lt hle)
      rw [ih, Nat.sub_mul]
      omega

theorem isFull_iff {c : PrefixCode} : c.isFull = true ↔ c.IsComplete := by
  rw [isFull, decide_eq_true_eq, spare?_eq_some_iff, IsComplete, Nat.one_mul, Nat.add_zero, eq_comm]

end Courier.Gzip.PrefixCode
