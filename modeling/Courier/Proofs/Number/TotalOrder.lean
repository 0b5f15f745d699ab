import Courier.Number.Binary64
import Mathlib

/-!
# The total order of binary64

Arithmetic compares numbers by their value: it takes the two zeros for equal, and says nothing
about a NaN. The total order (`Courier.Binary64.Precedes`) is what is left to decide: of two
numbers the lesser comes first, of the two zeros the negative one, and a NaN comes before all
numbers or after them, by its sign.

Sorting compares keys, and a key is read off the bits. The two orders are one
(`Courier.Binary64.sortsBefore_iff`). What ties them is the **magnitude** of a number, its bits
without the sign: magnitudes count the finite numbers from zero up to infinity, so arithmetic
compares nothing else (`Courier.Binary64.compare_toFloat`).
-/

namespace Courier.Binary64

open Float.Model Float.Model.UnpackedFloat

/-! ### The order -/

/-- Whether the sign bit is set. -/
def isNegative (x : Binary64) : Bool := 2 ^ 63 ≤ x.bits.toNat

/-- The bits without the sign. -/
def magnitude (x : Binary64) : Nat := x.bits.toNat % 2 ^ 63

/-- **The total order**, by arithmetic as far as that goes. -/
inductive Precedes (x y : Binary64) : Prop
  /-- The lesser number comes first. -/
  | less (h : x.toFloat < y.toFloat)
  /-- Of equal numbers the negative one comes first: these can only be the two zeros. -/
  | equal (h : (x.toFloat == y.toFloat) = true) (hs : y.isNegative = true → x.isNegative = true)
  /-- A negative NaN comes before all numbers. -/
  | negativeNaN (hx : x.isNaN = true) (hs : x.isNegative = true) (hy : y.isNaN = false)
  /-- A positive NaN comes after all numbers. -/
  | positiveNaN (hx : x.isNaN = false) (hy : y.isNaN = true) (hs : y.isNegative = false)
  /-- A negative NaN comes before a positive one. -/
  | nanSigns (hx : x.isNaN = true) (hy : y.isNaN = true) (hsx : x.isNegative = true)
      (hsy : y.isNegative = false)
  /-- Positive NaNs come in the order of their payload. -/
  | positiveNaNs (hx : x.isNaN = true) (hy : y.isNaN = true) (hsx : x.isNegative = false)
      (hsy : y.isNegative = false) (h : x.magnitude ≤ y.magnitude)
  /-- Negative NaNs come in the opposite order. -/
  | negativeNaNs (hx : x.isNaN = true) (hy : y.isNaN = true) (hsx : x.isNegative = true)
      (hsy : y.isNegative = true) (h : y.magnitude ≤ x.magnitude)

/-! ### What the bits spell -/

/-- The magnitude of infinity. -/
def infinite : Nat := 2047 * 2 ^ 52

/-- What a sign and a magnitude spell. A finite number is a mantissa of at most 53 bits with an
exponent, and if the mantissa is shorter, the exponent is the least one. -/
inductive Spells (s : Sign) : Nat → UnpackedFloat → Prop
  | notANumber {n : Nat} (h : infinite < n) : Spells s n .notANumber
  | infinity : Spells s infinite (.infinity s)
  | zero : Spells s 0 (.zero s)
  | finite {n m : Nat} {e : Int} (hpos : 0 < m) (hn : n < infinite)
      (h : (n : Int) = (e + 1074) * 2 ^ 52 + m) (hm : m < 2 ^ 53) (he : -1074 ≤ e)
      (hshort : 2 ^ 52 ≤ m ∨ e = -1074) : Spells s n (.finite s m e hpos)

theorem toNat_unpackMantissa (b : BitVec Format.binary64.numBits) :
    (unpackMantissa b).toNat = b.toNat % 2 ^ 52 := by
  simp [unpackMantissa, BitVec.extractLsb, BitVec.extractLsb'_toNat]

theorem toNat_unpackExponent (b : BitVec Format.binary64.numBits) :
    (unpackExponent b).toNat = b.toNat / 2 ^ 52 % 2 ^ 11 := by
  simp [unpackExponent, BitVec.extractLsb, BitVec.extractLsb'_toNat, Nat.shiftRight_eq_div_pow]

theorem toNat_unpackSign (b : BitVec Format.binary64.numBits) :
    (unpackSign b).toNat = b.toNat / 2 ^ 63 := by
  have hb : b.toNat < 2 ^ 64 := b.isLt
  simp only [unpackSign, BitVec.extractLsb, BitVec.toNat_cast, BitVec.extractLsb'_toNat,
    Nat.shiftRight_eq_div_pow]
  omega

/-- The sign of a word. -/
def signOf (b : BitVec Format.binary64.numBits) : Sign :=
  if 2 ^ 63 ≤ b.toNat then .negative else .positive

theorem ofBitVec_unpackSign (b : BitVec Format.binary64.numBits) :
    Sign.ofBitVec (unpackSign b) = signOf b := by
  have hb : b.toNat < 2 ^ 64 := b.isLt
  have hsign : unpackSign b = 0#1 ↔ ¬ 2 ^ 63 ≤ b.toNat := by
    rw [← BitVec.toNat_inj, toNat_unpackSign]
    change b.toNat / 2 ^ 63 = 0 ↔ _
    omega
  simp only [Sign.ofBitVec, signOf, hsign, ite_not]

/-- **A word spells its sign and its magnitude.** -/
theorem spells_unpack (b : BitVec Format.binary64.numBits) :
    Spells (signOf b) (b.toNat % 2 ^ 63) (UnpackedFloat.unpack .binary64 b) := by
  have hm := toNat_unpackMantissa b
  have he := toNat_unpackExponent b
  have hbias : (Format.binary64.exponentBias : Int) = 1023 := rfl
  have hexp : unpackExponent b = -BitVec.ofNat Format.binary64.exponentBits 1 ↔
      b.toNat / 2 ^ 52 % 2 ^ 11 = 2047 := by
    rw [← BitVec.toNat_inj, he]
    exact Iff.rfl
  have hexp₀ : unpackExponent b = BitVec.ofNat Format.binary64.exponentBits 0 ↔
      b.toNat / 2 ^ 52 % 2 ^ 11 = 0 := by
    rw [← BitVec.toNat_inj, he]
    exact Iff.rfl
  have hman : unpackMantissa b = BitVec.ofNat Format.binary64.mantissaBitsWithoutImplicit 0 ↔
      b.toNat % 2 ^ 52 = 0 := by
    rw [← BitVec.toNat_inj, hm]
    exact Iff.rfl
  unfold UnpackedFloat.unpack
  dsimp only
  rw [ofBitVec_unpackSign]
  split_ifs with h h' h h'
  · rw [hexp] at h
    rw [hman] at h'
    obtain hn : b.toNat % 2 ^ 63 = infinite := by unfold infinite; omega
    rw [hn]
    exact .infinity
  · rw [hexp] at h
    rw [hman] at h'
    exact .notANumber (by unfold infinite; omega)
  · rw [hexp₀] at h
    rw [hman] at h'
    obtain hn : b.toNat % 2 ^ 63 = 0 := by omega
    rw [hn]
    exact .zero
  · rw [hexp₀] at h
    rw [hman] at h'
    have hleast : ((unpackExponent b).toNat : Int)
        - (Format.binary64.exponentBias + Format.binary64.mantissaBitsWithoutImplicit) + 1
          = -1074 := by
      rw [he, hbias, h]
      rfl
    refine .finite _ ?_ ?_ ?_ (Int.le_of_eq hleast.symm)
      (Or.inr hleast)
    · unfold infinite
      omega
    · rw [hleast, hm]
      omega
    · omega
  · rw [hexp] at *
    rw [hexp₀] at *
    have hone : (1#1 ++ unpackMantissa b).toNat = 2 ^ 52 + b.toNat % 2 ^ 52 := by
      rw [BitVec.toNat_append, ← Nat.shiftLeft_add_eq_or_of_lt (unpackMantissa b).isLt, hm]
      rfl
    refine .finite _ ?_ ?_ ?_ ?_ (Or.inl ?_)
    · unfold infinite
      omega
    · rw [he, hone, hbias]
      omega
    · omega
    · rw [he, hbias]
      omega
    · omega

/-- Packing loses nothing of what a word spells: only NaNs are spelled by several words. -/
theorem unpack_pack_unpack (b : BitVec Format.binary64.numBits) :
    UnpackedFloat.unpack .binary64 (UnpackedFloat.pack .binary64 (UnpackedFloat.unpack .binary64 b))
      = UnpackedFloat.unpack .binary64 b := by
  rw [pack_unpack b]
  split_ifs with hnan
  · rw [unpack_packedNaN]
    simp only [isNaNBits, decide_eq_true_eq] at hnan
    simp [UnpackedFloat.unpack, hnan]
  · rfl

/-! ### What arithmetic compares -/

theorem compare_neg_neg (a b : Int) : compare (-a) (-b) = (compare a b).swap := by
  rw [Int.compare_swap, Int.compare_eq_ite_lt, Int.compare_eq_ite_lt]
  simp only [Int.neg_lt_neg_iff]

/-- Exponent and mantissa together are compared as the magnitude. -/
theorem compare_then_compare {n k m m' : Nat} {e e' : Int}
    (hn : (n : Int) = (e + 1074) * 2 ^ 52 + m) (hk : (k : Int) = (e' + 1074) * 2 ^ 52 + m')
    (hm : m < 2 ^ 53) (hm' : m' < 2 ^ 53) (hshort : 2 ^ 52 ≤ m ∨ e = -1074)
    (hshort' : 2 ^ 52 ≤ m' ∨ e' = -1074) (he : -1074 ≤ e) (he' : -1074 ≤ e') :
    (compare e e').then (compare m m') = compare (n : Int) k := by
  rcases Int.lt_trichotomy e e' with h | rfl | h
  · rw [Int.compare_eq_lt.2 h, Int.compare_eq_lt.2 (by omega)]
    rfl
  · rw [Int.compare_eq_eq.2 rfl, Nat.compare_eq_ite_lt, Int.compare_eq_ite_lt]
    simp only [Ordering.then]
    split_ifs <;> first | rfl | omega
  · rw [Int.compare_eq_gt.2 h, Int.compare_eq_gt.2 (by omega)]
    rfl

/-- **Arithmetic compares signs and magnitudes**, as long as neither spells a NaN. -/
theorem Spells.compare_eq {s t : Sign} {n k : Nat} {u v : UnpackedFloat} (hu : Spells s n u)
    (hv : Spells t k v) (hn : n ≤ infinite) (hk : k ≤ infinite) :
    u.compare v = some (compare (s.apply n) (t.apply k)) := by
  cases hu with
  | notANumber h => omega
  | infinity =>
    cases hv with
    | notANumber h => omega
    | infinity => cases s <;> cases t <;> rfl
    | zero => cases s <;> cases t <;> rfl
    | finite hpos' hk =>
      cases s <;> cases t <;> simp only [UnpackedFloat.compare, Sign.apply, Int.compare_eq_ite_lt]
        <;> split_ifs <;> first | rfl | omega
  | zero =>
    cases hv with
    | notANumber h => omega
    | infinity => cases s <;> cases t <;> rfl
    | zero => cases s <;> cases t <;> rfl
    | finite hpos' hk h' hm' he' =>
      cases s <;> cases t <;> simp only [UnpackedFloat.compare, Sign.apply, Int.compare_eq_ite_lt]
        <;> split_ifs <;> first | rfl | omega
  | finite hpos hn h hm he hshort =>
    cases hv with
    | notANumber h => omega
    | infinity =>
      cases s <;> cases t <;> simp only [UnpackedFloat.compare, Sign.apply, Int.compare_eq_ite_lt]
        <;> split_ifs <;> first | rfl | omega
    | zero =>
      cases s <;> cases t <;> simp only [UnpackedFloat.compare, Sign.apply, Int.compare_eq_ite_lt]
        <;> split_ifs <;> first | rfl | omega
    | finite hpos' hk h' hm' he' hshort' =>
      have hmag := compare_then_compare h h' hm hm' hshort hshort' he he'
      cases s <;> cases t <;> simp only [UnpackedFloat.compare, Sign.apply, compare_neg_neg, hmag]
      · exact congrArg some (Int.compare_eq_lt.2 (by omega)).symm
      · exact congrArg some (Int.compare_eq_gt.2 (by omega)).symm

/-- The number that arithmetic sees, counted from zero in steps between neighbours. -/
def rank (x : Binary64) : Int := if x.isNegative then -(x.magnitude : Int) else x.magnitude

variable {x y : Binary64}

/-- The number that arithmetic sees has the sign and the magnitude of the bits. -/
theorem spells_toFloat (x : Binary64) :
    Spells (signOf x.bits.toBitVec) x.magnitude x.toFloat.toModel.unpack := by
  have hpack : x.toFloat.toModel.unpack = UnpackedFloat.unpack .binary64 x.bits.toBitVec :=
    unpack_pack_unpack x.bits.toBitVec
  rw [hpack]
  exact spells_unpack x.bits.toBitVec

theorem apply_signOf (x : Binary64) : (signOf x.bits.toBitVec).apply x.magnitude = x.rank := by
  unfold signOf rank isNegative
  simp only [decide_eq_true_eq]
  change (if 2 ^ 63 ≤ x.bits.toNat then _ else _ : Sign).apply _ = _
  split <;> rfl

/-- **A NaN** is what has a magnitude above that of infinity. -/
theorem isNaN_iff : x.isNaN = true ↔ infinite < x.magnitude := by
  have h := spells_toFloat x
  change x.toFloat.toModel.unpack.isNaN = true ↔ _
  generalize x.toFloat.toModel.unpack = u at h
  generalize x.magnitude = n at h ⊢
  cases h with
  | notANumber h => simpa [UnpackedFloat.isNaN] using h
  | infinity => simp [UnpackedFloat.isNaN]
  | zero => simp [UnpackedFloat.isNaN]
  | finite hpos hn => simpa [UnpackedFloat.isNaN] using Nat.le_of_lt hn

theorem isNaN_eq_false_iff : x.isNaN = false ↔ x.magnitude ≤ infinite := by
  rw [← Bool.not_eq_true, isNaN_iff, Nat.not_lt]

/-- A NaN is compared with nothing. -/
theorem compare_eq_none {u v : UnpackedFloat} (h : u.isNaN = true ∨ v.isNaN = true) :
    u.compare v = none := by
  cases u <;> cases v <;> simp_all [UnpackedFloat.isNaN, UnpackedFloat.compare]

/-- Arithmetic compares ranks, and nothing with a NaN. -/
theorem compare_toFloat (x y : Binary64) :
    x.toFloat.toModel.unpack.compare y.toFloat.toModel.unpack
      = if x.isNaN || y.isNaN then none else some (compare x.rank y.rank) := by
  split_ifs with h
  · rw [Bool.or_eq_true] at h
    exact compare_eq_none h
  · rw [Bool.or_eq_true, not_or, Bool.not_eq_true, Bool.not_eq_true] at h
    rw [(spells_toFloat x).compare_eq (spells_toFloat y) (isNaN_eq_false_iff.1 h.1)
      (isNaN_eq_false_iff.1 h.2), apply_signOf, apply_signOf]

theorem toFloat_lt_iff :
    x.toFloat < y.toFloat ↔ x.isNaN = false ∧ y.isNaN = false ∧ x.rank < y.rank := by
  have hlt : x.toFloat < y.toFloat ↔
      x.toFloat.toModel.unpack.lt y.toFloat.toModel.unpack = true := decide_eq_true_iff
  rw [hlt, UnpackedFloat.lt, compare_toFloat]
  cases x.isNaN <;> cases y.isNaN <;> simp [Int.compare_eq_lt]

theorem toFloat_beq_iff :
    (x.toFloat == y.toFloat) = true ↔ x.isNaN = false ∧ y.isNaN = false ∧ x.rank = y.rank := by
  change x.toFloat.toModel.unpack.beq y.toFloat.toModel.unpack = true ↔ _
  rw [UnpackedFloat.beq, compare_toFloat]
  cases x.isNaN <;> cases y.isNaN <;> simp

/-! ### The key -/

/-- The key, by sign and magnitude. -/
theorem key_eq (x : Binary64) :
    x.key = if x.isNegative then -(x.magnitude : Int) - 1 else x.magnitude := by
  have hlt := x.bits.toNat_lt
  simp only [key, isNegative, magnitude, decide_eq_true_eq]
  change (if x.bits.toNat < 2 ^ 63 then _ else -((x.bits.toNat - 2 ^ 63 : Nat) : Int) - 1) = _
  split_ifs <;> omega

/-- What has the lesser key comes first. -/
theorem precedes_of_key_le (h : x.key ≤ y.key) : Precedes x y := by
  rw [key_eq, key_eq] at h
  cases hx : x.isNaN with
  | false =>
    have hmx := isNaN_eq_false_iff.1 hx
    cases hy : y.isNaN with
    | false =>
      -- a positive number has no negative one after it, and no lesser one
      have hs : y.isNegative = true → x.isNegative = true := by
        intro hsy
        by_contra hsx
        rw [if_neg hsx, if_pos hsy] at h
        omega
      have hrank : x.rank ≤ y.rank := by
        unfold rank
        split_ifs at h ⊢ <;> omega
      rcases Int.lt_or_eq_of_le hrank with hlt | heq
      · exact .less (toFloat_lt_iff.2 ⟨hx, hy, hlt⟩)
      · exact .equal (toFloat_beq_iff.2 ⟨hx, hy, heq⟩) hs
    | true =>
      have hmy := isNaN_iff.1 hy
      refine .positiveNaN hx hy (Bool.eq_false_iff.2 fun hsy => ?_)
      rw [if_pos hsy] at h
      split_ifs at h <;> omega
  | true =>
    have hmx := isNaN_iff.1 hx
    cases hy : y.isNaN with
    | false =>
      have hmy := isNaN_eq_false_iff.1 hy
      refine .negativeNaN hx ?_ hy
      by_contra hsx
      rw [if_neg hsx] at h
      split_ifs at h <;> omega
    | true =>
      cases hsx : x.isNegative <;> cases hsy : y.isNegative <;> simp [hsx, hsy] at h
      · exact .positiveNaNs hx hy hsx hsy h
      · omega
      · exact .nanSigns hx hy hsx hsy
      · exact .negativeNaNs hx hy hsx hsy h

/-- What comes first has no greater key. -/
theorem Precedes.key_le (h : Precedes x y) : x.key ≤ y.key := by
  rw [key_eq, key_eq]
  cases h with
  | less h =>
    obtain ⟨-, -, hrank⟩ := toFloat_lt_iff.1 h
    unfold rank at hrank
    split_ifs at hrank ⊢ <;> omega
  | equal h hs =>
    obtain ⟨-, -, hrank⟩ := toFloat_beq_iff.1 h
    unfold rank at hrank
    split_ifs at hrank ⊢ <;> first | omega | simp_all
  | negativeNaN hx hs hy =>
    have hmx := isNaN_iff.1 hx
    have hmy := isNaN_eq_false_iff.1 hy
    rw [if_pos hs]
    split_ifs <;> omega
  | positiveNaN hx hy hs =>
    have hmx := isNaN_eq_false_iff.1 hx
    have hmy := isNaN_iff.1 hy
    rw [hs, if_neg Bool.false_ne_true]
    split_ifs <;> omega
  | nanSigns hx hy hsx hsy =>
    rw [hsx, hsy, if_pos rfl, if_neg Bool.false_ne_true]
    omega
  | positiveNaNs hx hy hsx hsy h =>
    rw [hsx, hsy, if_neg Bool.false_ne_true, if_neg Bool.false_ne_true]
    omega
  | negativeNaNs hx hy hsx hsy h =>
    rw [hsx, hsy, if_pos rfl, if_pos rfl]
    omega

/-- **Sorting follows the total order.** -/
theorem sortsBefore_iff : Scalar.sortsBefore x y = true ↔ Precedes x y := by
  have hkeys : Scalar.sortsBefore x y = true ↔ x.key ≤ y.key := decide_eq_true_iff
  rw [hkeys]
  exact ⟨precedes_of_key_le, Precedes.key_le⟩

end Courier.Binary64
