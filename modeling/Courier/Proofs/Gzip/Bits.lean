import Courier.Gzip.Bits
import Mathlib.Data.List.Basic
import Mathlib.Data.Nat.Bitwise

/-!
# What a reader of bits reads

A reader takes a number of bits off a source and gives a value. What it does is said by a relation
between values and sequences of bits, as a grammar says it (`Courier.Gzip.Reads`): **the reader
finds a value exactly where the source begins with a sequence that stands for the value**, and what
it leaves is the rest.

Readers are put together from smaller ones, and so are the relations
(`Courier.Gzip.Reads.andThen`, `Courier.Gzip.Reads.map`).

| reader | sequence |
|---|---|
| `Courier.Gzip.BitSource.bit?` | one bit |
| `Courier.Gzip.BitSource.number?` | the number, the least significant bit first (`Courier.Gzip.numeral`) |
-/

namespace Courier.Gzip

/-! ### Numbers and bytes as bits -/

/-- A number in a given count of bits, the least significant first. -/
def numeral (count n : Nat) : List Bool := (List.range count).map n.testBit

@[simp] theorem length_numeral (count n : Nat) : (numeral count n).length = count := by
  simp [numeral]

theorem numeral_succ (count n : Nat) :
    numeral (count + 1) n = n.testBit 0 :: numeral count (n / 2) := by
  rw [numeral, List.range_succ_eq_map, List.map_cons, List.map_map, numeral]
  exact congrArg _ (List.map_congr_left fun i _ => Nat.testBit_succ n i)

/-- A bit and the number above it. -/
theorem numeral_succ_toNat_add (count : Nat) (b : Bool) (n : Nat) :
    numeral (count + 1) (b.toNat + 2 * n) = b :: numeral count n := by
  have hbit : (b.toNat + 2 * n).testBit 0 = b := by
    cases b <;> simp [Nat.testBit_zero, Nat.add_mod]
  have hrest : (b.toNat + 2 * n) / 2 = n := by
    have := Bool.toNat_le b
    omega
  rw [numeral_succ, hbit, hrest]

/-- Every number is a bit and a number above it. -/
theorem eq_toNat_add (n : Nat) : n = (n.testBit 0).toNat + 2 * (n / 2) := by
  rw [Nat.toNat_testBit, Nat.pow_zero, Nat.div_one]
  omega

/-- Numbers that fit are told apart. -/
theorem numeral_inj {count m n : Nat} (hm : m < 2 ^ count) (hn : n < 2 ^ count)
    (h : numeral count m = numeral count n) : m = n := by
  induction count generalizing m n with
  | zero =>
    rw [Nat.pow_zero, Nat.lt_one_iff] at hm hn
    rw [hm, hn]
  | succ count ih =>
    rw [numeral_succ, numeral_succ, List.cons.injEq] at h
    rw [Nat.pow_succ] at hm hn
    rw [eq_toNat_add m, eq_toNat_add n, h.1, ih (by omega) (by omega) h.2]

/-- The bits of bytes in the order in which they are read. -/
def bitsOf (b : Bytes) : List Bool := b.flatMap fun x => numeral 8 x.toNat

@[simp] theorem bitsOf_nil : bitsOf [] = [] := rfl

theorem bitsOf_cons (x : UInt8) (b : Bytes) : bitsOf (x :: b) = numeral 8 x.toNat ++ bitsOf b := rfl

@[simp] theorem bitsOf_append (b r : Bytes) : bitsOf (b ++ r) = bitsOf b ++ bitsOf r :=
  List.flatMap_append

@[simp] theorem length_bitsOf (b : Bytes) : (bitsOf b).length = 8 * b.length := by
  induction b with
  | nil => rfl
  | cons x b ih =>
    rw [bitsOf_cons, List.length_append, ih, length_numeral, List.length_cons]
    omega

/-- Bytes with the same bits are equal. -/
theorem bitsOf_injective : Function.Injective bitsOf := by
  intro b r h
  have hlength : b.length = r.length := by
    have hbits := congrArg List.length h
    rw [length_bitsOf, length_bitsOf] at hbits
    omega
  induction b generalizing r with
  | nil => exact (List.length_eq_zero_iff.1 hlength.symm).symm
  | cons x b ih =>
    cases r with
    | nil => cases hlength
    | cons y r =>
      rw [bitsOf_cons, bitsOf_cons] at h
      obtain ⟨hx, hr⟩ := List.append_inj h (by rw [length_numeral, length_numeral])
      rw [UInt8.toNat_inj.1 (numeral_inj x.toNat_lt y.toNat_lt hx),
        ih hr (Nat.succ.inj hlength)]

/-- Bytes are cut where their bits are. -/
theorem bitsOf_eq_append_iff {b x : Bytes} {t : List Bool} :
    bitsOf b = bitsOf x ++ t ↔ ∃ r, b = x ++ r ∧ t = bitsOf r := by
  constructor
  · intro h
    have hlength := congrArg List.length h
    rw [List.length_append, length_bitsOf, length_bitsOf] at hlength
    have hcut : b = b.take x.length ++ b.drop x.length := (List.take_append_drop _ b).symm
    rw [hcut, bitsOf_append] at h
    have hfirst : (bitsOf (b.take x.length)).length = (bitsOf x).length := by
      rw [length_bitsOf, length_bitsOf, List.length_take]
      omega
    obtain ⟨hx, ht⟩ := List.append_inj h hfirst
    rw [bitsOf_injective hx] at hcut
    exact ⟨b.drop x.length, hcut, ht.symm⟩
  · rintro ⟨r, rfl, rfl⟩
    exact bitsOf_append x r

/-- What is left when whole bytes are kept at the end are whole bytes. -/
theorem exists_of_bitsOf_eq_append {b r : Bytes} {w : List Bool} (h : bitsOf b = w ++ bitsOf r) :
    ∃ x, b = x ++ r ∧ bitsOf x = w := by
  have hlength := congrArg List.length h
  rw [List.length_append, length_bitsOf, length_bitsOf] at hlength
  have hcut : b = b.take (b.length - r.length) ++ b.drop (b.length - r.length) :=
    (List.take_append_drop _ b).symm
  rw [hcut, bitsOf_append] at h
  have hlast : (bitsOf (b.drop (b.length - r.length))).length = (bitsOf r).length := by
    rw [length_bitsOf, length_bitsOf, List.length_drop]
    omega
  obtain ⟨hx, hr⟩ := List.append_inj' h hlast
  rw [bitsOf_injective hr] at hcut
  exact ⟨b.take (b.length - r.length), hcut, hx⟩

/-! ### Reading -/

/-- The bits that a source holds. -/
def BitSource.bits (s : BitSource) : List Bool := (bitsOf s.rest).drop s.used

@[simp] theorem BitSource.bits_ofBytes (b : Bytes) : (ofBytes b).bits = bitsOf b := rfl

/-- The bound on the number of bits is one. -/
theorem BitSource.length_bits_le (s : BitSource) : s.bits.length ≤ s.bound := by
  rw [bits, List.length_drop, length_bitsOf, bound]
  exact Nat.sub_le _ _

/-- **A reader reads what a relation says**: it finds a value exactly if the source begins with bits
that stand for the value, and it leaves the others. -/
structure Reads {α : Type} (read : BitSource → Option (α × BitSource))
    (Writes : α → List Bool → Prop) : Prop where
  sound : ∀ {s s' a}, read s = some (a, s') → ∃ w, Writes a w ∧ s.bits = w ++ s'.bits
  complete : ∀ {s a w t}, Writes a w → s.bits = w ++ t → ∃ s', read s = some (a, s') ∧ s'.bits = t

section Combined

variable {α β : Type} {read : BitSource → Option (α × BitSource)} {Writes : α → List Bool → Prop}

/-- What a reader reads may be said in other words. -/
theorem Reads.congr {Writes' : α → List Bool → Prop} (h : Reads read Writes)
    (hwrites : ∀ a w, Writes a w ↔ Writes' a w) : Reads read Writes' := by
  obtain rfl : Writes = Writes' := funext₂ fun a w => propext (hwrites a w)
  exact h

theorem Reads.of_eq {read' : BitSource → Option (α × BitSource)} (h : Reads read Writes)
    (heq : ∀ s, read' s = read s) : Reads read' Writes := by
  obtain rfl : read' = read := funext heq
  exact h

/-- One reader after the other. -/
theorem Reads.bind {next : α → BitSource → Option (β × BitSource)}
    {Writes' : α → β → List Bool → Prop} (h : Reads read Writes)
    (hnext : ∀ a, Reads (next a) (Writes' a)) :
    Reads (fun s => (read s).bind fun r => next r.1 r.2)
      fun b w => ∃ a v v', Writes a v ∧ Writes' a b v' ∧ w = v ++ v' where
  sound {s s' b} hread := by
    obtain ⟨⟨a, s₁⟩, hfirst, hlast⟩ := Option.bind_eq_some_iff.1 hread
    obtain ⟨v, hv, hs⟩ := h.sound hfirst
    obtain ⟨v', hv', hs₁⟩ := (hnext a).sound hlast
    exact ⟨v ++ v', ⟨a, v, v', hv, hv', rfl⟩, by rw [hs, hs₁, List.append_assoc]⟩
  complete {s b w t} hw hs := by
    obtain ⟨a, v, v', hv, hv', rfl⟩ := hw
    rw [List.append_assoc] at hs
    obtain ⟨s₁, hfirst, hs₁⟩ := h.complete hv hs
    obtain ⟨s', hlast, hs'⟩ := (hnext a).complete hv' hs₁
    exact ⟨s', Option.bind_eq_some_iff.2 ⟨(a, s₁), hfirst, hlast⟩, hs'⟩

/-- The same, where the next reader is chosen by cases. -/
theorem Reads.andThen {next : α → BitSource → Option (β × BitSource)}
    {Writes' : α → β → List Bool → Prop} (h : Reads read Writes)
    (hnext : ∀ a, Reads (next a) (Writes' a)) :
    Reads (fun s => match read s with | none => none | some (a, s) => next a s)
      fun b w => ∃ a v v', Writes a v ∧ Writes' a b v' ∧ w = v ++ v' :=
  (h.bind hnext).of_eq fun s => by cases read s <;> rfl

/-- A reader and what is made of its value. -/
theorem Reads.map (h : Reads read Writes) (f : α → β) :
    Reads (fun s => (read s).map fun r => (f r.1, r.2)) fun b w => ∃ a, Writes a w ∧ b = f a where
  sound {s s' b} hread := by
    obtain ⟨⟨a, s₁⟩, hfirst, heq⟩ := Option.map_eq_some_iff.1 hread
    obtain ⟨rfl, rfl⟩ := Prod.mk.inj heq
    obtain ⟨w, hw, hs⟩ := h.sound hfirst
    exact ⟨w, ⟨a, hw, rfl⟩, hs⟩
  complete {s b w t} hw hs := by
    obtain ⟨a, hw, rfl⟩ := hw
    obtain ⟨s', hread, hs'⟩ := h.complete hw hs
    exact ⟨s', by rw [hread]; rfl, hs'⟩

/-- A reader whose value has to pass a check. -/
theorem Reads.filter (h : Reads read Writes) (p : α → Bool) :
    Reads (fun s => (read s).filter fun r => p r.1) fun a w => Writes a w ∧ p a = true where
  sound {s s' a} hread := by
    obtain ⟨hread, hp⟩ := Option.filter_eq_some_iff.1 hread
    obtain ⟨w, hw, hs⟩ := h.sound hread
    exact ⟨w, ⟨hw, hp⟩, hs⟩
  complete {s a w t} hw hs := by
    obtain ⟨hw, hp⟩ := hw
    obtain ⟨s', hread, hs'⟩ := h.complete hw hs
    exact ⟨s', Option.filter_eq_some_iff.2 ⟨hread, hp⟩, hs'⟩

/-- A reader that takes nothing. -/
theorem Reads.pure (a : α) : Reads (fun s => some (a, s)) fun b w => b = a ∧ w = [] where
  sound {s s' b} hread := by
    obtain ⟨rfl, rfl⟩ := Prod.mk.inj (Option.some.inj hread)
    exact ⟨[], ⟨rfl, rfl⟩, rfl⟩
  complete {s b w t} hw hs := by
    obtain ⟨rfl, rfl⟩ := hw
    exact ⟨s, rfl, hs⟩

/-- A reader that finds nothing. -/
theorem Reads.never : Reads (fun _ => (none : Option (α × BitSource))) fun _ _ => False where
  sound h := by cases h
  complete h := h.elim

end Combined

namespace BitSource

theorem bits_eq_cons (b : UInt8) (r : Bytes) (used : Fin 8) :
    (⟨b :: r, used⟩ : BitSource).bits
      = b.toNat.testBit used :: (⟨if used = 7 then r else b :: r, used + 1⟩ : BitSource).bits := by
  have hlt : used.val < (bitsOf (b :: r)).length := by
    rw [length_bitsOf, List.length_cons]
    omega
  have hbit : (bitsOf (b :: r))[used.val] = b.toNat.testBit used := by
    simp [bitsOf_cons, numeral, List.getElem_append_left]
  rw [bits, List.drop_eq_getElem_cons hlt, hbit, bits]
  by_cases h : used = 7
  · subst h
    have hall : (numeral 8 b.toNat ++ bitsOf r).drop 8 = bitsOf r :=
      List.drop_left' (length_numeral 8 b.toNat)
    exact congrArg _ hall
  · have hnext : (used + 1).val = used.val + 1 := by
      have hne : used.val ≠ 7 := fun hv => h (Fin.ext hv)
      omega
    rw [if_neg h, hnext]

/-- **One bit.** -/
theorem reads_bit? : Reads bit? fun b w => w = [b] where
  sound {s s' b} hread := by
    obtain ⟨rest, used⟩ := s
    cases rest with
    | nil => cases hread
    | cons x r =>
      obtain ⟨rfl, rfl⟩ := Prod.mk.inj (Option.some.inj hread)
      exact ⟨_, rfl, bits_eq_cons x r used⟩
  complete {s b w t} hw hs := by
    subst hw
    obtain ⟨rest, used⟩ := s
    cases rest with
    | nil => simp [bits] at hs
    | cons x r =>
      rw [bits_eq_cons, List.singleton_append, List.cons.injEq] at hs
      obtain ⟨rfl, rfl⟩ := hs
      exact ⟨_, rfl, rfl⟩

/-- **A number of a given count of bits.** -/
theorem reads_number? (count : Nat) :
    Reads (number? count) fun n w => n < 2 ^ count ∧ w = numeral count n := by
  induction count with
  | zero =>
    refine (Reads.pure 0).congr fun n w => ?_
    simp [numeral]
  | succ count ih =>
    refine Reads.congr (Reads.of_eq (reads_bit?.andThen fun b => ih.map fun n => b.toNat + 2 * n)
      fun s => by rw [number?]; cases s.bit? <;> rfl) fun n w => ?_
    constructor
    · rintro ⟨b, v, v', rfl, ⟨m, ⟨hm, rfl⟩, rfl⟩, rfl⟩
      have hb := Bool.toNat_le b
      rw [Nat.pow_succ, numeral_succ_toNat_add]
      exact ⟨by omega, rfl⟩
    · rintro ⟨hn, rfl⟩
      rw [Nat.pow_succ] at hn
      exact ⟨n.testBit 0, _, _, rfl, ⟨n / 2, ⟨by omega, rfl⟩, eq_toNat_add n⟩,
        numeral_succ count n⟩

/-- A source holds the bits of its whole bytes, after those that are left of a byte that was begun:
as many as there are over the multiple of eight. -/
theorem exists_bits_eq (s : BitSource) :
    ∃ pad, pad.length = s.bits.length % 8 ∧ s.bits = pad ++ bitsOf s.bytes := by
  obtain ⟨rest, used⟩ := s
  by_cases h : used = 0
  · subst h
    refine ⟨[], ?_, rfl⟩
    simp [bits]
  · cases rest with
    | nil => exact ⟨[], by simp [bits], by simp [bits, bytes, h]⟩
    | cons x r =>
      have hpos : 0 < used.val := Nat.pos_of_ne_zero fun hv => h (Fin.ext hv)
      have hdrop : (⟨x :: r, used⟩ : BitSource).bits
          = (numeral 8 x.toNat).drop used ++ bitsOf r := by
        rw [bits, bitsOf_cons, List.drop_append_of_le_length (by rw [length_numeral]; omega)]
      refine ⟨(numeral 8 x.toNat).drop used, ?_, ?_⟩
      · rw [hdrop, List.length_append, List.length_drop, length_numeral, length_bitsOf]
        omega
      · rw [hdrop, bytes, if_neg h]
        rfl

/-- The whole bytes that a source holds, if some bits, less than a byte, stand before them. -/
theorem bytes_eq_of_bits_eq {s : BitSource} {pad : List Bool} {r : Bytes} (hpad : pad.length < 8)
    (h : s.bits = pad ++ bitsOf r) : s.bytes = r := by
  obtain ⟨pad', hpad', hs⟩ := s.exists_bits_eq
  have hlength : pad'.length = pad.length := by
    rw [hpad', h, List.length_append, length_bitsOf]
    omega
  rw [hs] at h
  exact bitsOf_injective (List.append_inj h hlength).2

end BitSource

end Courier.Gzip
