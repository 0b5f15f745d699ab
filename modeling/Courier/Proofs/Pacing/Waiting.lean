import Courier.Hosts.Fetch
import Mathlib.Algebra.Ring.Nat
import Mathlib.Order.Monotone.Basic

/-!
# How long the waits are

The wait after an attempt is computed in numbers of 64 bits, and the rule it follows speaks of
numbers without bound: the wait doubles with each attempt up to a greatest wait
(`Courier.Backoff.doubled`), and up to a tenth of it is added.

| step | beyond 64 bits | the same as without bound? |
|---|---|---|
| the power of two | stays at the greatest number | yes, for the greatest wait is not beyond |
| its product with the first wait | stays at the greatest number | yes, for the same reason |
| the sum with a random part | there is no wait | **no** |

The first two lines are `Courier.Backoff.least_eq_doubled`: both steps stay at a number that is at
least the greatest wait, and the greatest wait is taken in the end. The third line is why the
waits are all the sums **that are numbers of 64 bits**, and no more
(`Courier.Backoff.isExact_wait?`). It never shows between the attempts to fetch a host map, where
the greatest wait is a second.
-/

namespace Courier.Backoff

/-- The wait that doubles with each attempt up to the greatest, in numbers without bound. -/
def doubled (b : Backoff) : (attempt : Nat) → Nat
  | 0 => 0
  | others + 1 => min (b.start * 2 ^ others) b.most

theorem greatest_eq : greatest = 2 ^ 64 - 1 := rfl

/-- The power of two is the exact one, held at the greatest number. -/
theorem powerOfTwo_eq (exponent : Nat) : powerOfTwo exponent = saturated (2 ^ exponent) := by
  have hgreatest := greatest_eq
  rw [powerOfTwo, saturated]
  split
  next hexponent =>
    have hlt : 2 ^ exponent < 2 ^ 64 := Nat.pow_lt_pow_right (by decide) hexponent
    exact (Nat.min_eq_left (a := 2 ^ exponent) (by omega)).symm
  next hexponent =>
    have hle : 2 ^ 64 ≤ 2 ^ exponent := Nat.pow_le_pow_right (by decide) (by omega)
    exact (Nat.min_eq_right (by omega)).symm

/-- Of a product that is held at the greatest number, a factor may be held there before. -/
theorem saturated_mul (m n : Nat) : saturated (m * saturated n) = saturated (m * n) := by
  unfold saturated
  rcases Nat.le_total n greatest with hn | hn
  · rw [Nat.min_eq_left hn]
  · rw [Nat.min_eq_right hn]
    rcases Nat.eq_zero_or_pos m with rfl | hm
    · rw [Nat.zero_mul, Nat.zero_mul]
    · have hleft : greatest ≤ m * greatest := Nat.le_mul_of_pos_left _ hm
      have hright : m * greatest ≤ m * n := Nat.mul_le_mul_left m hn
      rw [Nat.min_eq_right hleft, Nat.min_eq_right (Nat.le_trans hleft hright)]

/-- **Staying at the greatest number does no harm** to the least wait. -/
theorem least_eq_doubled {b : Backoff} (h : b.most ≤ greatest) (attempt : Nat) :
    b.least attempt = b.doubled attempt := by
  cases attempt with
  | zero => rfl
  | succ others =>
    rw [least, if_neg (Nat.succ_ne_zero others), Nat.add_sub_cancel, powerOfTwo_eq, saturated_mul,
      saturated, Nat.min_assoc, Nat.min_eq_right h]
    rfl

theorem doubled_le_most (b : Backoff) (attempt : Nat) : b.doubled attempt ≤ b.most := by
  cases attempt with
  | zero => exact Nat.zero_le _
  | succ others => exact Nat.min_le_right _ _

/-- The wait never decreases. -/
theorem monotone_doubled (b : Backoff) : Monotone b.doubled := by
  refine monotone_nat_of_le_succ fun attempt => ?_
  cases attempt with
  | zero => exact Nat.zero_le _
  | succ others =>
    have hpower : b.start * 2 ^ others ≤ b.start * 2 ^ (others + 1) :=
      Nat.mul_le_mul_left _ (Nat.pow_le_pow_right (by decide) (Nat.le_succ _))
    rw [doubled, doubled]
    omega

/-! ### The random part -/

theorem spread_pos (b : Backoff) (attempt : Nat) : 0 < b.spread attempt :=
  Nat.lt_of_lt_of_le Nat.one_pos (Nat.le_max_right _ _)

/-- Before the first attempt there is no wait. -/
theorem wait_zero (b : Backoff) (draw : Nat) : b.wait 0 draw = 0 := by
  simp [wait, spread, least, Nat.mod_one]

/-- **Every random part is drawn**, and no other is. -/
theorem exists_wait_eq_iff {b : Backoff} {attempt d : Nat} :
    (∃ draw, b.wait attempt draw = d) ↔ ∃ j < b.spread attempt, d = b.least attempt + j := by
  constructor
  · rintro ⟨draw, rfl⟩
    exact ⟨draw % b.spread attempt, Nat.mod_lt _ (b.spread_pos attempt), rfl⟩
  · rintro ⟨j, hj, rfl⟩
    exact ⟨j, by rw [wait, Nat.mod_eq_of_lt hj]⟩

theorem wait?_eq_some_iff {b : Backoff} {attempt draw d : Nat} :
    b.wait? attempt draw = some d ↔ b.wait attempt draw = d ∧ d < 2 ^ 64 := by
  have hgreatest := greatest_eq
  rw [wait?]
  split
  · rw [Option.some_inj]
    constructor
    · intro h
      exact ⟨h, by omega⟩
    · exact fun h => h.1
  · constructor
    · rintro ⟨⟩
    · rintro ⟨rfl, hlt⟩
      omega

theorem wait?_eq_none_iff {b : Backoff} {attempt draw : Nat} :
    b.wait? attempt draw = none ↔ 2 ^ 64 ≤ b.wait attempt draw := by
  have hgreatest := greatest_eq
  rw [wait?]
  split
  · simp only [reduceCtorEq, false_iff]
    omega
  · simp only [true_iff]
    omega

/-! ### The waits after an attempt -/

/-- **The waits after an attempt** are those of a least wait, as far as they are numbers of 64
bits: the least wait is the one without the random part, the waits are its sums with the numbers
below a tenth of it, or with zero if there are none, and a sum that is no number of 64 bits is no
wait. -/
structure IsExact (b : Backoff) (attempt least : Nat) : Prop where
  least_eq : b.least attempt = least
  waits : ∀ d, (∃ draw, b.wait? attempt draw = some d)
    ↔ d < 2 ^ 64 ∧ ∃ j < max (least / 10) 1, d = least + j
  none_iff : (∃ draw, b.wait? attempt draw = none) ↔ 2 ^ 64 < least + max (least / 10) 1

theorem isExact_least (b : Backoff) (attempt : Nat) : b.IsExact attempt (b.least attempt) where
  least_eq := rfl
  waits d := by
    simp only [wait?_eq_some_iff, exists_and_right, exists_wait_eq_iff]
    exact and_comm
  none_iff := by
    simp only [wait?_eq_none_iff]
    change _ ↔ 2 ^ 64 < b.least attempt + b.spread attempt
    constructor
    · rintro ⟨draw, hdraw⟩
      exact Nat.lt_of_le_of_lt hdraw (b.wait_lt attempt draw)
    · intro h
      -- the greatest of the random parts is the first to go beyond
      have hpos := b.spread_pos attempt
      obtain ⟨draw, hdraw⟩ := exists_wait_eq_iff.2
        ⟨b.spread attempt - 1, Nat.sub_lt hpos Nat.one_pos, rfl⟩
      exact ⟨draw, by omega⟩

/-- Where the greatest wait leaves room for a tenth of it, no sum is beyond. -/
theorem exists_wait?_eq {b : Backoff} (h : b.most + max (b.most / 10) 1 ≤ 2 ^ 64)
    (attempt draw : Nat) :
    ∃ d < b.most + max (b.most / 10) 1, b.wait? attempt draw = some d := by
  have hmost : b.most ≤ greatest := by
    have hgreatest := greatest_eq
    omega
  have hleast : b.least attempt ≤ b.most :=
    (least_eq_doubled hmost attempt).trans_le (b.doubled_le_most attempt)
  have hspread : b.spread attempt ≤ max (b.most / 10) 1 := by
    rw [spread]
    omega
  have hwait := b.wait_lt attempt draw
  exact ⟨b.wait attempt draw, by omega, wait?_eq_some_iff.2 ⟨rfl, by omega⟩⟩

/-- **The waits**, whatever the first and the greatest wait are: there is none before the first
attempt; after each attempt they are those of the wait that doubles up to the greatest, without
any bound on the numbers, but only as far as they are numbers of 64 bits. The least of them never
decreases and is never above the greatest wait. Between attempts to fetch a host map every random
part gives a wait, and it is below 1100 milliseconds. -/
theorem isExact_wait? (start most : UInt64) :
    let b : Backoff := ⟨start.toNat, most.toNat⟩
    (∀ draw, b.wait? 0 draw = some 0)
      ∧ (∀ others, b.IsExact (others + 1) (min (start.toNat * 2 ^ others) most.toNat))
      ∧ Monotone b.least ∧ (∀ attempt, b.least attempt ≤ most.toNat)
      ∧ ∀ attempt draw, ∃ d < 1100, Fetcher.backoff.wait? attempt draw = some d := by
  intro b
  have hmost : b.most ≤ greatest := by
    have hlt : b.most < 2 ^ 64 := most.toNat_lt
    have hgreatest := greatest_eq
    omega
  have hleast : b.least = b.doubled := funext fun attempt => least_eq_doubled hmost attempt
  refine ⟨fun draw => ?_, fun others => ?_, ?_, fun attempt => ?_, fun attempt draw => ?_⟩
  · exact wait?_eq_some_iff.2 ⟨b.wait_zero draw, by decide⟩
  · have hexact := b.isExact_least (others + 1)
    rw [hleast] at hexact
    exact hexact
  · rw [hleast]
    exact b.monotone_doubled
  · rw [hleast]
    exact b.doubled_le_most attempt
  · have hroom : Fetcher.backoff.most + max (Fetcher.backoff.most / 10) 1 ≤ 2 ^ 64 := by decide
    exact exists_wait?_eq hroom attempt draw

/-- The greatest wait with any random part is beyond. -/
example : (Backoff.mk greatest greatest).wait? 1 1 = none := by decide

end Courier.Backoff
