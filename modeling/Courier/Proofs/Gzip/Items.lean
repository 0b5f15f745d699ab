import Courier.Gzip.Inflate
import Courier.Proofs.Gzip.PrefixCode

/-!
# The data of a block

A block that is not stored is a sequence of symbols. Each of them, with the bits behind it, is an
item (`Courier.Gzip.Inflate.IsItem`), and the items make up the data of the block
(`Courier.Gzip.Inflate.IsData`).

| symbol | what follows it | item |
|---|---|---|
| less than 256 | | a byte |
| 256 | | the end of the block |
| 257 and above | bits of a length, a distance, bits of the distance | a repetition |

In a **repetition** each byte is the one that stands a distance before it
(`Courier.Gzip.Inflate.IsRepeated`). The distance may be less than the length: then part of what is
repeated belongs to the repetition. It may also reach beyond the beginning of the data, where zeros
stand; those who write a stream do not make use of this, but it is read.

`Courier.Gzip.Inflate.items?` finds the data of such a sequence and leaves what follows the end of
the block. Every item has at least one bit, so more steps than bits are enough.
-/

namespace Courier.Gzip.Inflate

/-! ### Tables -/

/-- A number that an entry of a table stands for, with the bits behind the entry: the least number
and what the bits add to it. -/
def IsExtended (table : List (Nat × Nat)) (index n : Nat) (w : List Bool) : Prop :=
  ∃ least bits more, table[index]? = some (least, bits) ∧ more < 2 ^ bits ∧ n = least + more ∧
    w = numeral bits more

theorem reads_extended? (table : List (Nat × Nat)) (index : Nat) :
    Reads (extended? table index) (IsExtended table index) := by
  cases hentry : table[index]? with
  | none =>
    refine (Reads.never.of_eq fun s => by rw [extended?, hentry]).congr fun n w => ?_
    simp [IsExtended, hentry]
  | some entry =>
    obtain ⟨least, bits⟩ := entry
    refine (((BitSource.reads_number? bits).map (least + ·)).of_eq
      fun s => by rw [extended?, hentry]).congr fun n w => ?_
    constructor
    · rintro ⟨more, ⟨hmore, rfl⟩, rfl⟩
      exact ⟨least, bits, more, hentry, hmore, rfl, rfl⟩
    · rintro ⟨least', bits', more, hentry', hmore, rfl, rfl⟩
      obtain ⟨rfl, rfl⟩ := Prod.mk.inj (Option.some.inj (hentry.symm.trans hentry'))
      exact ⟨more, ⟨hmore, rfl⟩, rfl⟩

/-! ### Repetitions -/

/-- The byte a distance before the end of data. Zeros stand before the beginning. -/
def byteBack (distance : Nat) (data : Bytes) : UInt8 :=
  if distance ≤ data.length then data.getD (data.length - distance) 0 else 0

/-- **A repetition**: each byte is the one that stands a distance before it, be it among the data
before the repetition or among those that are repeated. -/
def IsRepeated (distance : Nat) (before added : Bytes) : Prop :=
  ∀ first x last, added = first ++ x :: last → x = byteBack distance (before ++ first)

theorem isRepeated_nil (distance : Nat) (before : Bytes) : IsRepeated distance before [] := by
  intro first x last h
  simp at h

theorem isRepeated_cons {distance : Nat} {before added : Bytes} {x : UInt8} :
    IsRepeated distance before (x :: added) ↔
      x = byteBack distance before ∧ IsRepeated distance (before ++ [x]) added := by
  constructor
  · intro h
    refine ⟨?_, fun first y last hadded => ?_⟩
    · simpa using h [] x added rfl
    · have hy := h (x :: first) y last (congrArg _ hadded)
      rwa [List.append_cons] at hy
  · rintro ⟨hx, hrest⟩ first y last hadded
    cases first with
    | nil =>
      obtain ⟨rfl, rfl⟩ := List.cons.inj hadded
      rwa [List.append_nil]
    | cons z first =>
      obtain ⟨rfl, hfirst⟩ := List.cons.inj hadded
      rw [List.append_cons]
      exact hrest first y last hfirst

theorem repeated_succ (distance count : Nat) (before : Bytes) :
    repeated distance (count + 1) before.toArray
      = repeated distance count (before ++ [byteBack distance before]).toArray := by
  rw [repeated, byteBack]
  simp

/-- **What is repeated is a repetition.** -/
theorem exists_repeated_eq (distance count : Nat) (before : Bytes) :
    ∃ added, added.length = count ∧ IsRepeated distance before added ∧
      repeated distance count before.toArray = (before ++ added).toArray := by
  induction count generalizing before with
  | zero => exact ⟨[], rfl, isRepeated_nil distance before, by rw [repeated, List.append_nil]⟩
  | succ count ih =>
    obtain ⟨added, rfl, hadded, hout⟩ := ih (before ++ [byteBack distance before])
    refine ⟨byteBack distance before :: added, rfl, isRepeated_cons.2 ⟨rfl, hadded⟩, ?_⟩
    rw [repeated_succ, hout, ← List.append_cons]

/-- There is only one repetition of a length. -/
theorem IsRepeated.eq {distance : Nat} {before added added' : Bytes}
    (h : IsRepeated distance before added) (h' : IsRepeated distance before added')
    (hlength : added.length = added'.length) : added = added' := by
  induction added generalizing before added' with
  | nil => exact (List.length_eq_zero_iff.1 hlength.symm).symm
  | cons x added ih =>
    cases added' with
    | nil => cases hlength
    | cons y added' =>
      obtain ⟨rfl, hadded⟩ := isRepeated_cons.1 h
      obtain ⟨rfl, hadded'⟩ := isRepeated_cons.1 h'
      rw [ih hadded hadded' (Nat.succ.inj hlength)]

/-! ### Items -/

/-- What stands behind the symbol of an item. -/
def IsBehind (c : Codes) (symbol : Nat) : Item → List Bool → Prop
  | .byte x, w => symbol = x.toNat ∧ w = []
  | .endOfBlock, w => symbol = endOfBlock ∧ w = []
  | .repetition length distance, w => ∃ index far v v' v'', symbol = 257 + index ∧
      IsExtended lengths index length v ∧ c.distances.IsWord far v' ∧
      IsExtended distances far distance v'' ∧ w = v ++ (v' ++ v'')

/-- Behind a symbol below the end of the block there is nothing. -/
theorem isBehind_byte {c : Codes} {symbol : Nat} (h : symbol < endOfBlock) {item : Item}
    {w : List Bool} :
    IsBehind c symbol item w ↔ item = .byte (UInt8.ofNat symbol) ∧ w = [] := by
  rw [endOfBlock] at h
  cases item with
  | byte x =>
    rw [IsBehind, Item.byte.injEq]
    refine and_congr_left' ⟨?_, ?_⟩
    · rintro rfl
      exact UInt8.ofNat_toNat.symm
    · rintro rfl
      rw [UInt8.toNat_ofNat']
      omega
  | endOfBlock =>
    refine iff_of_false (fun hbehind => ?_) (by simp)
    exact absurd hbehind.1 (Nat.ne_of_lt h)
  | repetition length distance =>
    refine iff_of_false ?_ (by simp)
    rintro ⟨index, far, v, v', v'', rfl, -⟩
    omega

/-- There is nothing behind the end of the block. -/
theorem isBehind_endOfBlock {c : Codes} {item : Item} {w : List Bool} :
    IsBehind c endOfBlock item w ↔ item = .endOfBlock ∧ w = [] := by
  cases item with
  | byte x =>
    refine iff_of_false (fun hbehind => ?_) (by simp)
    exact absurd hbehind.1.symm (Nat.ne_of_lt x.toNat_lt)
  | endOfBlock => simp [IsBehind]
  | repetition length distance =>
    refine iff_of_false ?_ (by simp)
    rintro ⟨index, far, v, v', v'', hindex, -⟩
    rw [endOfBlock] at hindex
    omega

/-- **An item**: the word of a symbol and what stands behind it. -/
def IsItem (c : Codes) (item : Item) (w : List Bool) : Prop :=
  ∃ symbol v v', c.symbols.IsWord symbol v ∧ IsBehind c symbol item v' ∧ w = v ++ v'

/-- No item is empty. -/
theorem IsItem.length_pos {c : Codes} {item : Item} {w : List Bool} (h : IsItem c item w) :
    0 < w.length := by
  obtain ⟨symbol, v, v', hv, -, rfl⟩ := h
  rw [List.length_append]
  exact Nat.add_pos_left hv.length_pos _

theorem reads_repetition? (c : Codes) (index : Nat) :
    Reads (repetition? c index) (IsBehind c (257 + index)) := by
  have hdistance (length : Nat) :=
    (PrefixCode.reads_symbol? c.distances).andThen fun far =>
      (reads_extended? distances far).map fun distance => Item.repetition length distance
  refine Reads.congr (Reads.of_eq ((reads_extended? lengths index).andThen hdistance) fun s => ?_)
    fun item w => ?_
  · unfold repetition?
    cases extended? lengths index s with
    | none => rfl
    | some r =>
      dsimp only
      cases c.distances.symbol? r.2 <;> rfl
  · constructor
    · rintro ⟨length, v, _, hv, ⟨far, v', v'', hv', ⟨distance, hv'', rfl⟩, rfl⟩, rfl⟩
      exact ⟨index, far, v, v', v'', rfl, hv, hv', hv'', rfl⟩
    · intro h
      cases item with
      | byte x =>
        have hx := x.toNat_lt
        exact absurd h.1 (by omega)
      | endOfBlock =>
        have hend : 257 + index = 256 := h.1
        omega
      | repetition length distance =>
        obtain ⟨index', far, v, v', v'', hindex, hv, hv', hv'', rfl⟩ := h
        obtain rfl := Nat.add_left_cancel hindex
        exact ⟨length, v, _, hv, ⟨far, v', v'', hv', ⟨distance, hv'', rfl⟩, rfl⟩, rfl⟩

/-- **What is read is an item.** -/
theorem reads_item? (c : Codes) : Reads (item? c) (IsItem c) := by
  have hbehind (symbol : Nat) : Reads
      (fun s =>
        if symbol < endOfBlock then some (Item.byte (UInt8.ofNat symbol), s)
        else if symbol = endOfBlock then some (Item.endOfBlock, s)
        else repetition? c (symbol - 257) s) (IsBehind c symbol) := by
    rcases Nat.lt_trichotomy symbol endOfBlock with hbyte | rfl | hbeyond
    · refine ((Reads.pure (Item.byte (UInt8.ofNat symbol))).of_eq fun s => if_pos hbyte).congr
        fun item w => ?_
      exact (isBehind_byte hbyte).symm
    · refine ((Reads.pure Item.endOfBlock).of_eq fun s => ?_).congr fun item w => ?_
      · rw [if_neg (Nat.lt_irrefl _), if_pos rfl]
      · exact isBehind_endOfBlock.symm
    · rw [endOfBlock] at hbeyond
      obtain ⟨index, rfl⟩ := Nat.exists_eq_add_of_le (show 257 ≤ symbol from hbeyond)
      refine (reads_repetition? c index).of_eq fun s => ?_
      rw [endOfBlock, if_neg (by omega), if_neg (by omega), Nat.add_sub_cancel_left]
  refine ((PrefixCode.reads_symbol? c.symbols).andThen hbehind).of_eq fun s => ?_
  unfold item?
  cases c.symbols.symbol? s <;> rfl

/-! ### Sequences of items -/

/-- **A sequence of items** up to the end of the block: the data before it, its bits, and the data
after it. -/
inductive IsData (c : Codes) : Bytes → List Bool → Bytes → Prop
  | endOfBlock {before : Bytes} {w : List Bool} (h : IsItem c .endOfBlock w) :
      IsData c before w before
  | byte {before after : Bytes} {x : UInt8} {w rest : List Bool} (h : IsItem c (.byte x) w)
      (hrest : IsData c (before ++ [x]) rest after) : IsData c before (w ++ rest) after
  | repetition {before added after : Bytes} {distance : Nat} {w rest : List Bool}
      (h : IsItem c (.repetition added.length distance) w)
      (hadded : IsRepeated distance before added)
      (hrest : IsData c (before ++ added) rest after) : IsData c before (w ++ rest) after

/-- What is found is the data of a sequence of items. -/
theorem isData_of_items? {c : Codes} {steps : Nat} {s s' : BitSource} {before : Bytes}
    {out : Output} (h : items? c steps s before.toArray = some (out, s')) :
    ∃ w, IsData c before w out.toList ∧ s.bits = w ++ s'.bits := by
  induction steps generalizing s before with
  | zero => cases h
  | succ steps ih =>
    rw [items?] at h
    split at h
    · cases h
    next s₁ hread =>
      obtain ⟨w, hw, hs⟩ := (reads_item? c).sound hread
      obtain ⟨rfl, rfl⟩ := Prod.mk.inj (Option.some.inj h)
      exact ⟨w, .endOfBlock hw, hs⟩
    next x s₁ hread =>
      obtain ⟨w, hw, hs⟩ := (reads_item? c).sound hread
      rw [List.push_toArray] at h
      obtain ⟨rest, hrest, hs₁⟩ := ih h
      exact ⟨w ++ rest, .byte hw hrest, by rw [hs, hs₁, List.append_assoc]⟩
    next length distance s₁ hread =>
      obtain ⟨w, hw, hs⟩ := (reads_item? c).sound hread
      obtain ⟨added, rfl, hadded, hout⟩ := exists_repeated_eq distance length before
      rw [hout] at h
      obtain ⟨rest, hrest, hs₁⟩ := ih h
      exact ⟨w ++ rest, .repetition hw hadded hrest, by rw [hs, hs₁, List.append_assoc]⟩

/-- The data of a sequence of items are found, with more steps than bits. -/
theorem IsData.exists_items? {c : Codes} {before after : Bytes} {w : List Bool}
    (h : IsData c before w after) {steps : Nat} {s : BitSource} {t : List Bool}
    (hs : s.bits = w ++ t) (hsteps : w.length < steps) :
    ∃ s', items? c steps s before.toArray = some (after.toArray, s') ∧ s'.bits = t := by
  induction h generalizing s steps with
  | endOfBlock h =>
    obtain ⟨steps, rfl⟩ := Nat.exists_eq_succ_of_ne_zero (Nat.ne_zero_of_lt hsteps)
    obtain ⟨s₁, hread, hs₁⟩ := (reads_item? c).complete h hs
    exact ⟨s₁, by rw [items?, hread], hs₁⟩
  | @byte before after x w rest h hrest ih =>
    obtain ⟨steps, rfl⟩ := Nat.exists_eq_succ_of_ne_zero (Nat.ne_zero_of_lt hsteps)
    rw [List.append_assoc] at hs
    obtain ⟨s₁, hread, hs₁⟩ := (reads_item? c).complete h hs
    have hpos := h.length_pos
    rw [List.length_append] at hsteps
    have hrestSteps : rest.length < steps := by omega
    obtain ⟨s', hafter, hs'⟩ := ih hs₁ hrestSteps
    rw [← List.push_toArray] at hafter
    exact ⟨s', by rw [items?, hread]; exact hafter, hs'⟩
  | @repetition before added after distance w rest h hadded hrest ih =>
    obtain ⟨steps, rfl⟩ := Nat.exists_eq_succ_of_ne_zero (Nat.ne_zero_of_lt hsteps)
    rw [List.append_assoc] at hs
    obtain ⟨s₁, hread, hs₁⟩ := (reads_item? c).complete h hs
    have hpos := h.length_pos
    rw [List.length_append] at hsteps
    have hrestSteps : rest.length < steps := by omega
    obtain ⟨s', hafter, hs'⟩ := ih hs₁ hrestSteps
    obtain ⟨added', hcount, hadded', hrepeated⟩ := exists_repeated_eq distance added.length before
    obtain rfl := hadded.eq hadded' hcount.symm
    rw [← hrepeated] at hafter
    exact ⟨s', by rw [items?, hread]; exact hafter, hs'⟩

/-- **The data of a block** are read, as there are no more items than bits. -/
theorem reads_items? (c : Codes) (before : Bytes) :
    Reads (fun s => items? c (s.bound + 1) s before.toArray)
      fun out w => IsData c before w out.toList where
  sound hread := isData_of_items? hread
  complete {s out w t} hw hs := by
    have hsteps : w.length < s.bound + 1 := by
      have hle := s.length_bits_le
      rw [hs, List.length_append] at hle
      omega
    exact hw.exists_items? hs hsteps

end Courier.Gzip.Inflate
