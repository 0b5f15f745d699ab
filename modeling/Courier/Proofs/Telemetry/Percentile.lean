import Courier.Number.Fraction
import Courier.Telemetry.Statistics
import Mathlib.Algebra.BigOperators.Group.List.Basic
import Mathlib.Algebra.Order.BigOperators.Group.List
import Mathlib.Algebra.Order.Floor.Semiring
import Mathlib.Data.List.GetD
import Mathlib.Data.Rat.Floor
import Mathlib.Tactic.FieldSimp
import Mathlib.Tactic.GCongr
import Mathlib.Tactic.Linarith
import Mathlib.Tactic.Positivity

/-!
# Percentiles of exact fractions

Over exact fractions the percentile of a share is one function of one number, the **position** of
the share: it is held between the first and the last position (`Courier.heldPosition`), and between
two neighbouring positions it goes in a straight line from the one value to the other
(`Courier.valueAt`). The three branches of the rule are three pieces of this function
(`Courier.percentile_eq_valueAt`), which meet at their ends.

All that is to be known about percentiles follows from it: `Courier.valueAt` ascends
(`Courier.valueAt_le_valueAt`) since it stays between the two values that it goes from and to, and
at a whole number it is the value there.

What a rule does with an index that is out of range is not seen in its result. So there is a
second rule that gives nothing in that case, `Courier.percentile?`; that the two agree
(`Courier.percentile?_eq_some`) says that no index is.
-/

namespace Courier

section Checked

variable {α : Type} [Scalar α]

/-- The percentile of a share with each index checked: there is none where a value is read that
is not there, or an index before the first. -/
def percentile? (sorted : List α) (p : α) : Option α :=
  let count := sorted.length
  let position := Scalar.mul p (Scalar.add (Scalar.ofNat count) (Scalar.ofNat 1))
  match count with
  | 0 => some (Scalar.ofNat 0)
  | last + 1 =>
    if Scalar.lt position (Scalar.ofNat 1) then sorted[0]?
    else if Scalar.le (Scalar.ofNat count) position then sorted[last]?
    else
      match Scalar.floor position with
      | 0 => none
      | below + 1 => do
        let lower ← sorted[below]?
        let upper ← sorted[below + 1]?
        return Scalar.add lower (Scalar.mul (Scalar.sub position (Scalar.ofNat (below + 1)))
          (Scalar.sub upper lower))

end Checked

/-! ### The value at a position -/

/-- A position, held between the first and the last. -/
def heldPosition (count : Nat) (position : ℚ) : ℚ := max 1 (min position count)

/-- **The value at a position**, counted from one: between two neighbours, it goes in a straight
line from the one to the other. -/
def valueAt (sorted : List ℚ) (position : ℚ) : ℚ :=
  sorted.getD (⌊position⌋₊ - 1) 0
    + (position - ⌊position⌋₊) * (sorted.getD ⌊position⌋₊ 0 - sorted.getD (⌊position⌋₊ - 1) 0)

/-- At a whole number there is no other value in it. -/
theorem valueAt_natCast (sorted : List ℚ) (k : Nat) :
    valueAt sorted k = sorted.getD (k - 1) 0 := by
  rw [valueAt, Nat.floor_natCast, sub_self, zero_mul, add_zero]

theorem one_le_heldPosition (count : Nat) (position : ℚ) : 1 ≤ heldPosition count position :=
  le_max_left _ _

theorem heldPosition_le {count : Nat} (h : 1 ≤ count) (position : ℚ) :
    heldPosition count position ≤ count :=
  max_le (by exact_mod_cast h) (min_le_right _ _)

theorem heldPosition_mono (count : Nat) : Monotone (heldPosition count) := fun _ _ h =>
  max_le_max_left 1 (min_le_min_right _ h)

theorem heldPosition_eq_self {count : Nat} {position : ℚ} (hfirst : 1 ≤ position)
    (hlast : position ≤ count) : heldPosition count position = position := by
  rw [heldPosition, min_eq_left hlast, max_eq_right hfirst]

/-! ### Values in ascending order -/

section Ascending

variable {sorted : List ℚ} (hsorted : sorted.Pairwise (· ≤ ·))
include hsorted

theorem getD_le_getD {i j : Nat} (hij : i ≤ j) (hj : j < sorted.length) :
    sorted.getD i 0 ≤ sorted.getD j 0 := by
  rw [List.getD_eq_getElem _ _ (hij.trans_lt hj), List.getD_eq_getElem _ _ hj]
  rcases hij.lt_or_eq with hlt | rfl
  · exact List.pairwise_iff_getElem.1 hsorted i j _ _ hlt
  · exact le_refl _

variable {r s : ℚ}

/-- The straight line does not descend, and at the last position it has no length. -/
theorem getD_le_valueAt (hfirst : 0 ≤ r) (hlast : r ≤ sorted.length) :
    sorted.getD (⌊r⌋₊ - 1) 0 ≤ valueAt sorted r := by
  have hfloor : (⌊r⌋₊ : ℚ) ≤ r := Nat.floor_le hfirst
  rcases (Nat.floor_le_of_le hlast).lt_or_eq with hinner | hend
  · have hslope : sorted.getD (⌊r⌋₊ - 1) 0 ≤ sorted.getD ⌊r⌋₊ 0 :=
      getD_le_getD hsorted (Nat.sub_le _ _) hinner
    have hpart := mul_nonneg (sub_nonneg.2 hfloor) (sub_nonneg.2 hslope)
    rw [valueAt]
    linarith
  · have hr : r = ⌊r⌋₊ := by
      rw [hend] at hfloor ⊢
      exact hlast.antisymm hfloor
    rw [hr, valueAt_natCast, Nat.floor_natCast]

theorem valueAt_le_getD (hlast : ⌊r⌋₊ < sorted.length) :
    valueAt sorted r ≤ sorted.getD ⌊r⌋₊ 0 := by
  have hslope : sorted.getD (⌊r⌋₊ - 1) 0 ≤ sorted.getD ⌊r⌋₊ 0 :=
    getD_le_getD hsorted (Nat.sub_le _ _) hlast
  have hpart : r - ⌊r⌋₊ ≤ 1 := by
    have hlt := Nat.lt_floor_add_one r
    linarith
  have hstep := mul_le_mul_of_nonneg_right hpart (sub_nonneg.2 hslope)
  rw [valueAt]
  linarith

/-- **The value ascends with the position.** -/
theorem valueAt_le_valueAt (hfirst : 1 ≤ r) (hrs : r ≤ s) (hlast : s ≤ sorted.length) :
    valueAt sorted r ≤ valueAt sorted s := by
  have hr : 0 ≤ r := zero_le_one.trans hfirst
  have hs : 0 ≤ s := hr.trans hrs
  have hfloor : ⌊s⌋₊ ≤ sorted.length := Nat.floor_le_of_le hlast
  rcases (Nat.floor_le_floor hrs).lt_or_eq with hlt | heq
  · -- a value of the list stands between the two
    calc valueAt sorted r ≤ sorted.getD ⌊r⌋₊ 0 := valueAt_le_getD hsorted (by omega)
      _ ≤ sorted.getD (⌊s⌋₊ - 1) 0 := getD_le_getD hsorted (by omega) (by omega)
      _ ≤ valueAt sorted s := getD_le_valueAt hsorted hs hlast
  · rcases hfloor.lt_or_eq with hinner | hend
    · have hslope : sorted.getD (⌊s⌋₊ - 1) 0 ≤ sorted.getD ⌊s⌋₊ 0 :=
        getD_le_getD hsorted (Nat.sub_le _ _) hinner
      rw [valueAt, valueAt, heq]
      gcongr
    · have hle : (sorted.length : ℚ) ≤ r := by
        rw [← hend, ← heq]
        exact Nat.floor_le hr
      rw [hrs.antisymm (hlast.trans hle)]

end Ascending

/-! ### Percentiles -/

theorem headD_eq_getD (sorted : List ℚ) : sorted.headD 0 = sorted.getD 0 0 := by
  cases sorted <;> rfl

theorem getLastD_eq_getD (sorted : List ℚ) :
    sorted.getLastD 0 = sorted.getD (sorted.length - 1) 0 := by
  rw [List.getLastD_eq_getLast?, List.getLast?_eq_getElem?, List.getD_eq_getElem?_getD]

theorem floor_eq (position : ℚ) : Scalar.floor position = ⌊position⌋₊ := rfl

/-- The rule in the operations of fractions. -/
theorem percentile_eq {sorted : List ℚ} (h : sorted ≠ []) (p : ℚ) :
    percentile sorted p =
      if p * (sorted.length + 1) < 1 then sorted.headD 0
      else if sorted.length ≤ p * (sorted.length + 1) then sorted.getLastD 0
      else valueAt sorted (p * (sorted.length + 1)) := by
  have hcount : sorted.length ≠ 0 := mt List.length_eq_zero_iff.1 h
  simp only [percentile, if_neg hcount, Scalar.lt, Scalar.le, Scalar.mul, Scalar.add, Scalar.sub,
    Scalar.ofNat, floor_eq, decide_eq_true_eq, Nat.cast_one, Nat.cast_zero, valueAt]

/-- **The percentile of a share is the value at its position.** -/
theorem percentile_eq_valueAt {sorted : List ℚ} (h : sorted ≠ []) (p : ℚ) :
    percentile sorted p
      = valueAt sorted (heldPosition sorted.length (p * (sorted.length + 1))) := by
  have hcount : 1 ≤ sorted.length := List.length_pos_iff.2 h
  rw [percentile_eq h]
  generalize p * (sorted.length + 1) = position
  split_ifs with hfirst hlast
  · have hheld : heldPosition sorted.length position = (1 : Nat) := by
      rw [heldPosition, max_eq_left (min_le_of_left_le hfirst.le), Nat.cast_one]
    rw [hheld, valueAt_natCast, Nat.sub_self, headD_eq_getD]
  · have hheld : heldPosition sorted.length position = sorted.length := by
      rw [heldPosition, min_eq_right hlast, max_eq_right (by exact_mod_cast hcount)]
    rw [hheld, valueAt_natCast, getLastD_eq_getD]
  · rw [heldPosition_eq_self (not_lt.1 hfirst) (not_le.1 hlast).le]

/-- **No index is out of range**, whatever the values and the share are. -/
theorem percentile?_eq_some (sorted : List ℚ) (p : ℚ) :
    percentile? sorted p = some (percentile sorted p) := by
  cases sorted with
  | nil => rfl
  | cons v rest =>
    rw [percentile_eq (List.cons_ne_nil v rest), percentile?]
    simp only [List.length_cons, Scalar.lt, Scalar.le, Scalar.mul, Scalar.add, Scalar.sub,
      Scalar.ofNat, floor_eq, decide_eq_true_eq, Nat.cast_one]
    generalize p * (((rest.length + 1 : Nat) : ℚ) + 1) = position
    split_ifs with hfirst hlast
    · rfl
    · rw [getLastD_eq_getD, List.getD_eq_getElem _ _ (Nat.lt_succ_self _)]
      exact List.getElem?_eq_getElem (Nat.lt_succ_self _)
    · have hpos : 1 ≤ ⌊position⌋₊ := Nat.le_floor (by exact_mod_cast not_lt.1 hfirst)
      have hlt : ⌊position⌋₊ < rest.length + 1 :=
        (Nat.floor_lt' (Nat.succ_ne_zero _)).2 (not_le.1 hlast)
      rw [valueAt]
      obtain ⟨below, hbelow⟩ : ∃ below, ⌊position⌋₊ = below + 1 :=
        ⟨⌊position⌋₊ - 1, (Nat.sub_add_cancel hpos).symm⟩
      rw [hbelow] at hlt ⊢
      have hlower : (v :: rest)[below]? = some ((v :: rest).getD below 0) := by
        rw [List.getD_eq_getElem _ _ (by simp; omega), List.getElem?_eq_getElem]
      have hupper : (v :: rest)[below + 1]? = some ((v :: rest).getD (below + 1) 0) := by
        rw [List.getD_eq_getElem _ _ (by simpa using hlt), List.getElem?_eq_getElem]
      simp only [hlower, hupper, Nat.add_sub_cancel]
      rfl

/-! ### What percentiles are -/

/-- **A function gives the percentiles** of values in ascending order: it ascends from the first
value to the last, and at the share of a value it is that value. -/
structure IsPercentileOf (sorted : List ℚ) (value : ℚ → ℚ) : Prop where
  monotone : Monotone value
  first_le : ∀ p, ∀ v ∈ sorted.head?, v ≤ value p
  le_last : ∀ p, ∀ v ∈ sorted.getLast?, value p ≤ v
  at_share : ∀ (k : Nat) (hk : k < sorted.length),
    value ((k + 1 : Nat) / (sorted.length + 1)) = sorted[k]

theorem isPercentileOf_percentile {sorted : List ℚ} (h : sorted ≠ [])
    (hsorted : sorted.Pairwise (· ≤ ·)) : IsPercentileOf sorted (percentile sorted) := by
  have hcount : 1 ≤ sorted.length := List.length_pos_iff.2 h
  have hfirst := one_le_heldPosition sorted.length
  have hlast := heldPosition_le hcount
  have hspan : (0 : ℚ) ≤ sorted.length + 1 := by positivity
  constructor
  · intro p q hpq
    rw [percentile_eq_valueAt h, percentile_eq_valueAt h]
    exact valueAt_le_valueAt hsorted (hfirst _)
      (heldPosition_mono _ (mul_le_mul_of_nonneg_right hpq hspan)) (hlast _)
  · intro p v hv
    rw [percentile_eq_valueAt h]
    calc v = valueAt sorted (1 : Nat) := by
          rw [valueAt_natCast, Nat.sub_self, List.getD_eq_getElem?_getD, ← List.head?_eq_getElem?,
            hv, Option.getD_some]
      _ ≤ _ := valueAt_le_valueAt hsorted (by simp) (by simpa using hfirst _) (hlast _)
  · intro p v hv
    rw [percentile_eq_valueAt h]
    calc _ ≤ valueAt sorted sorted.length := valueAt_le_valueAt hsorted (hfirst _) (hlast _) le_rfl
      _ = v := by
          rw [valueAt_natCast, List.getD_eq_getElem?_getD, ← List.getLast?_eq_getElem?, hv,
            Option.getD_some]
  · intro k hk
    have hposition : ((k + 1 : Nat) : ℚ) / (sorted.length + 1) * (sorted.length + 1)
        = (k + 1 : Nat) := by field_simp
    rw [percentile_eq_valueAt h, hposition, heldPosition_eq_self (by simp) (by exact_mod_cast hk),
      valueAt_natCast, Nat.add_sub_cancel, List.getD_eq_getElem _ _ hk]

/-! ### What is reported of a timer -/

/-- **Statistics are those of values in ascending order**, and in order themselves. -/
structure Summarizes (value : Statistic → ℚ) (sorted : List ℚ) : Prop where
  least : sorted.head? = some (value .least)
  greatest : sorted.getLast? = some (value .greatest)
  mean : value .mean = sorted.sum / sorted.length
  mean_between : [value .least, value .mean, value .greatest].Pairwise (· ≤ ·)
  percentiles_between : [value .least, value (.percentile 75), value (.percentile 90),
    value (.percentile 95), value (.percentile 99), value .greatest].Pairwise (· ≤ ·)

/-- Adding up from the first value on gives the sum. -/
theorem mean_eq (sorted : List ℚ) : Statistic.value sorted .mean = sorted.sum / sorted.length := by
  cases sorted with
  | nil => rfl
  | cons v rest =>
    rw [List.sum_eq_foldl, List.foldl_cons, zero_add]
    rfl

theorem monotone_percentile {sorted : List ℚ} {value : ℚ → ℚ} (h : IsPercentileOf sorted value) :
    Monotone fun hundredths : Nat => value (hundredths / (100 : Nat)) := fun a b hab =>
  h.monotone (div_le_div_of_nonneg_right (by exact_mod_cast hab) (Nat.cast_nonneg _))

theorem summarizes_value {sorted : List ℚ} (h : sorted ≠ []) (hsorted : sorted.Pairwise (· ≤ ·)) :
    Summarizes (Statistic.value sorted) sorted := by
  have hpercentile := isPercentileOf_percentile h hsorted
  have hmono := monotone_percentile hpercentile
  have hcount : (0 : ℚ) < sorted.length := by exact_mod_cast List.length_pos_iff.2 h
  have hleast : sorted.head? = some (Statistic.value sorted .least) := by
    cases sorted with
    | nil => exact absurd rfl h
    | cons v rest => rfl
  have hgreatest : sorted.getLast? = some (Statistic.value sorted .greatest) := by
    rw [Statistic.value, List.getLastD_eq_getLast?, List.getLast?_eq_some_getLast h]
    rfl
  -- each value is the percentile of its share, so it lies between the first and the last
  have hbounds : ∀ v ∈ sorted, Statistic.value sorted .least ≤ v
      ∧ v ≤ Statistic.value sorted .greatest := by
    intro v hv
    obtain ⟨k, hk, rfl⟩ := List.mem_iff_getElem.1 hv
    rw [← hpercentile.at_share k hk]
    exact ⟨hpercentile.first_le _ _ hleast, hpercentile.le_last _ _ hgreatest⟩
  refine ⟨hleast, hgreatest, mean_eq sorted, List.isChain_iff_pairwise.1 ?_,
    List.isChain_iff_pairwise.1 ?_⟩
  · rw [mean_eq]
    have hlow := List.card_nsmul_le_sum sorted _ fun v hv => (hbounds v hv).1
    have hhigh := List.sum_le_card_nsmul sorted _ fun v hv => (hbounds v hv).2
    rw [nsmul_eq_mul, mul_comm] at hlow hhigh
    simp only [List.isChain_cons_cons, List.isChain_singleton, and_true]
    exact ⟨(le_div_iff₀ hcount).2 hlow, (div_le_iff₀ hcount).2 hhigh⟩
  · simp only [List.isChain_cons_cons, List.isChain_singleton, and_true]
    exact ⟨hpercentile.first_le _ _ hleast, hmono (by decide), hmono (by decide),
      hmono (by decide), hpercentile.le_last _ _ hgreatest⟩

theorem pairwise_ascending (values : List ℚ) : (Scalar.ascending values).Pairwise (· ≤ ·) :=
  (Scalar.pairwise_ascending values).imp fun hvw => of_decide_eq_true hvw

/-- **Percentiles of exact fractions**: whatever the values are and whatever the share is, no
index is out of range. Of values in ascending order they ascend with the share, from the first
value to the last, and at the share of a value they are that value. What is reported of a sample,
in whatever order its values came, are seven statistics: the least value, the four percentiles and
the greatest value ascend, and the mean lies between the least and the greatest. -/
theorem isPercentileOf_and_summarizes {sorted : List ℚ} (h : sorted ≠ [])
    (hsorted : sorted.Pairwise (· ≤ ·)) :
    (∀ p, percentile? sorted p = some (percentile sorted p))
      ∧ IsPercentileOf sorted (percentile sorted)
      ∧ ∀ values : List ℚ, values ≠ [] → ∃ value,
        statistics (Scalar.ascending values) = Statistic.all.map (fun s => (s, value s))
          ∧ Summarizes value (Scalar.ascending values) := by
  refine ⟨percentile?_eq_some sorted, isPercentileOf_percentile h hsorted, fun values hvalues => ?_⟩
  have hne := Scalar.ascending_ne_nil hvalues
  refine ⟨Statistic.value (Scalar.ascending values), ?_,
    summarizes_value hne (pairwise_ascending values)⟩
  rw [statistics, if_neg (by simpa using hne)]

/-- The percentile of seven tenths lies halfway between the third and the fourth of four values. -/
theorem percentile_seven_tenths :
    ([1, 2, 2, 5] : List ℚ) ≠ [] ∧ ([1, 2, 2, 5] : List ℚ).Pairwise (· ≤ ·)
      ∧ percentile? [1, 2, 2, 5] (7 / 10 : ℚ) = some (7 / 2)
      ∧ percentile [1, 2, 2, 5] (1 / 10 : ℚ) ≤ percentile [1, 2, 2, 5] (7 / 10 : ℚ)
      ∧ percentile [1, 2, 2, 5] ((3 : Nat) / ((4 : Nat) + 1) : ℚ) = 2 := by
  have hne : ([1, 2, 2, 5] : List ℚ) ≠ [] := List.cons_ne_nil _ _
  have hsorted : ([1, 2, 2, 5] : List ℚ).Pairwise (· ≤ ·) := by decide +kernel
  obtain ⟨hchecked, hpercentile, -⟩ := isPercentileOf_and_summarizes hne hsorted
  refine ⟨hne, hsorted, ?_, hpercentile.monotone (by norm_num), hpercentile.at_share 2 (by decide)⟩
  rw [hchecked]
  decide +kernel

end Courier
