import Courier.Gzip.Checksum
import Courier.Proofs.Gzip.Items
import Courier.Proofs.Gzip.SentCodes

/-!
# What a compressed stream is

A stream is a sequence of blocks (`Courier.Gzip.IsStream`). A block begins with a bit that tells
whether it is the last, and two bits that tell its kind.

| kind | what follows |
|---|---|
| 0 | the data as they are, from the next whole byte on |
| 1 | items of the fixed codes |
| 2 | codes, and items of these codes |

Blocks share their data: a repetition in one of them may reach back into those before it. They also
share a count of bits, for it depends on the bits before a block how many it has to skip to a whole
byte (`Courier.Gzip.Inflate.IsBlock`).

The reader finds the data of a stream wherever bytes begin with one, and **only** there: what it
leaves are the bytes after that stream (`Courier.Gzip.inflate?_eq_some_iff`).
-/

namespace Courier.Gzip

/-! ### Numbers in two bytes -/

/-- A number that was read from two bytes is written as these bytes. -/
theorem littleEndian_two (b₀ b₁ : UInt8) :
    littleEndian 2 (b₀.toNat + 256 * b₁.toNat) = [b₀, b₁] := by
  have h₀ := b₀.toNat_lt
  have hlow : UInt8.ofNat (b₀.toNat + 256 * b₁.toNat) = b₀ := by
    apply UInt8.toNat_inj.1
    rw [UInt8.toNat_ofNat']
    omega
  have hhigh : (b₀.toNat + 256 * b₁.toNat) / 256 = b₁.toNat := by omega
  rw [littleEndian, littleEndian, littleEndian, hlow, hhigh, UInt8.ofNat_toNat]

/-- A number that was written in two bytes is read again. -/
theorem toNat_ofNat_add {n : Nat} (h : n < 65536) :
    (UInt8.ofNat n).toNat + 256 * (UInt8.ofNat (n / 256)).toNat = n :=
  ofLittleEndian_littleEndian 2 n h

/-- What does not fit in two bytes is dropped. -/
theorem littleEndian_two_mod (n : Nat) : littleEndian 2 (n % 65536) = littleEndian 2 n := by
  have hlow : UInt8.ofNat (n % 65536) = UInt8.ofNat n := by
    apply UInt8.toNat_inj.1
    rw [UInt8.toNat_ofNat', UInt8.toNat_ofNat']
    omega
  have hhigh : UInt8.ofNat (n % 65536 / 256) = UInt8.ofNat (n / 256) := by
    apply UInt8.toNat_inj.1
    rw [UInt8.toNat_ofNat', UInt8.toNat_ofNat']
    omega
  simp only [littleEndian, hlow, hhigh]

namespace Inflate

/-! ### Stored data -/

/-- Data as they are stored: their length, its complement, and the data. -/
def storedBytes (data : Bytes) : Bytes :=
  littleEndian 2 data.length ++ littleEndian 2 (65535 - data.length) ++ data

theorem stored?_eq_some_iff {s s' : BitSource} {before : Bytes} {out : Output} :
    stored? s before.toArray = some (out, s') ↔
      ∃ data r, data.length ≤ 65535 ∧ s.bytes = storedBytes data ++ r ∧
        out = (before ++ data).toArray ∧ s' = .ofBytes r := by
  constructor
  · intro h
    unfold stored? at h
    split at h
    next l₀ l₁ n₀ n₁ rest hbytes =>
      dsimp only at h
      split at h
      next hcond =>
        obtain ⟨hcomplement, hlength⟩ := hcond
        obtain ⟨rfl, rfl⟩ := Prod.mk.inj (Option.some.inj h)
        have hdata : (rest.take (l₀.toNat + 256 * l₁.toNat)).length = l₀.toNat + 256 * l₁.toNat :=
          List.length_take_of_le hlength
        refine ⟨rest.take (l₀.toNat + 256 * l₁.toNat), _, by omega, ?_, by simp, rfl⟩
        rw [storedBytes, hdata, ← hcomplement, Nat.add_sub_cancel_left, littleEndian_two,
          littleEndian_two, hbytes, List.append_assoc _ _ (rest.drop _), List.take_append_drop]
        rfl
      · cases h
    · cases h
  · rintro ⟨data, r, hlength, hbytes, rfl, rfl⟩
    have hcons : s.bytes = UInt8.ofNat data.length :: UInt8.ofNat (data.length / 256) ::
        UInt8.ofNat (65535 - data.length) :: UInt8.ofNat ((65535 - data.length) / 256) ::
          (data ++ r) := hbytes
    unfold stored?
    rw [hcons]
    dsimp only
    rw [toNat_ofNat_add (by omega), toNat_ofNat_add (by omega), if_pos, List.take_left,
      List.drop_left, List.append_toArray]
    rw [List.length_append]
    omega

/-! ### Blocks -/

/-- **A block** without the bit that tells whether it is the last: the count of bits before it and
the data before it, its bits, and the data after it. -/
inductive IsBlock (start : Nat) (before : Bytes) : List Bool → Bytes → Prop
  | stored {pad : List Bool} {data : Bytes} (hpad : pad.length < 8)
      (hstart : (start + 2 + pad.length) % 8 = 0) (hdata : data.length ≤ 65535) :
      IsBlock start before (numeral 2 0 ++ (pad ++ bitsOf (storedBytes data))) (before ++ data)
  | fixed {w : List Bool} {after : Bytes} (h : IsData fixedCodes before w after) :
      IsBlock start before (numeral 2 1 ++ w) after
  | sent {c : Codes} {v w : List Bool} {after : Bytes} (hcodes : SendsCodes c v)
      (h : IsData c before w after) : IsBlock start before (numeral 2 2 ++ (v ++ w)) after

/-- What is found is a block. -/
theorem isBlock_of_block? {start : Nat} {s s' : BitSource} {before : Bytes} {out : Output}
    (hstart : (start + s.bits.length) % 8 = 0)
    (h : block? s before.toArray = some (out, s')) :
    ∃ w, IsBlock start before w out.toList ∧ s.bits = w ++ s'.bits := by
  unfold block? at h
  split at h
  next s₁ hkind =>
    obtain ⟨_, ⟨-, rfl⟩, hs⟩ := (BitSource.reads_number? 2).sound hkind
    obtain ⟨data, r, hdata, hbytes, rfl, rfl⟩ := stored?_eq_some_iff.1 h
    obtain ⟨pad, hpad, hs₁⟩ := s₁.exists_bits_eq
    have hlength := congrArg List.length hs
    rw [List.length_append, length_numeral] at hlength
    have hskipped : pad.length < 8 := by omega
    have hpadded : (start + 2 + pad.length) % 8 = 0 := by omega
    refine ⟨_, .stored hskipped hpadded hdata, ?_⟩
    rw [hs, hs₁, hbytes, bitsOf_append, BitSource.bits_ofBytes]
    simp only [List.append_assoc]
  next s₁ hkind =>
    obtain ⟨_, ⟨-, rfl⟩, hs⟩ := (BitSource.reads_number? 2).sound hkind
    obtain ⟨w, hw, hs₁⟩ := (reads_items? fixedCodes before).sound h
    exact ⟨_, .fixed hw, by rw [hs, hs₁, List.append_assoc]⟩
  next s₁ hkind =>
    obtain ⟨_, ⟨-, rfl⟩, hs⟩ := (BitSource.reads_number? 2).sound hkind
    split at h
    next c s₂ hread =>
      obtain ⟨v, hv, hs₁⟩ := reads_sentCodes?.sound hread
      obtain ⟨w, hw, hs₂⟩ := (reads_items? c before).sound h
      exact ⟨_, .sent hv hw, by rw [hs, hs₁, hs₂]; simp only [List.append_assoc]⟩
    · cases h
  · cases h

/-- A block is found where the source has as many bits as are left of whole bytes. -/
theorem IsBlock.exists_block? {start : Nat} {before after : Bytes} {w : List Bool}
    (h : IsBlock start before w after) {s : BitSource} {t : List Bool}
    (hstart : (start + s.bits.length) % 8 = 0) (hs : s.bits = w ++ t) :
    ∃ s', block? s before.toArray = some (after.toArray, s') ∧ s'.bits = t := by
  cases h with
  | @stored pad data hpad hpadded hdata =>
    rw [List.append_assoc] at hs
    obtain ⟨s₁, hkind, hs₁⟩ := (BitSource.reads_number? 2).complete ⟨by decide, rfl⟩ hs
    -- the bits that are skipped are those that are left of the byte
    obtain ⟨pad', hpad', hs₁'⟩ := s₁.exists_bits_eq
    have hlength := congrArg List.length hs
    rw [List.length_append, length_numeral, ← hs₁] at hlength
    rw [hs₁', List.append_assoc] at hs₁
    obtain ⟨-, hbits⟩ := List.append_inj hs₁ (by omega)
    obtain ⟨r, hbytes, rfl⟩ := bitsOf_eq_append_iff.1 hbits
    refine ⟨.ofBytes r, ?_, rfl⟩
    simp only [block?, hkind]
    exact stored?_eq_some_iff.2 ⟨data, r, hdata, hbytes, rfl, rfl⟩
  | @fixed w after hw =>
    rw [List.append_assoc] at hs
    obtain ⟨s₁, hkind, hs₁⟩ := (BitSource.reads_number? 2).complete ⟨by decide, rfl⟩ hs
    obtain ⟨s', hread, hs'⟩ := (reads_items? fixedCodes before).complete hw hs₁
    refine ⟨s', ?_, hs'⟩
    simp only [block?, hkind]
    exact hread
  | @sent c v w after hcodes hw =>
    simp only [List.append_assoc] at hs
    obtain ⟨s₁, hkind, hs₁⟩ := (BitSource.reads_number? 2).complete ⟨by decide, rfl⟩ hs
    obtain ⟨s₂, hreadCodes, hs₂⟩ := reads_sentCodes?.complete hcodes hs₁
    obtain ⟨s', hread, hs'⟩ := (reads_items? c before).complete hw hs₂
    refine ⟨s', ?_, hs'⟩
    simp only [block?, hkind, hreadCodes]
    exact hread

/-- **Blocks up to the last**: the count of bits before them and the data before them, their bits,
and the data after them. -/
inductive IsBlocks : Nat → Bytes → List Bool → Bytes → Prop
  | last {start : Nat} {before after : Bytes} {w : List Bool}
      (h : IsBlock (start + 1) before w after) : IsBlocks start before (true :: w) after
  | more {start : Nat} {before between after : Bytes} {w rest : List Bool}
      (h : IsBlock (start + 1) before w between)
      (hrest : IsBlocks (start + 1 + w.length) between rest after) :
      IsBlocks start before (false :: (w ++ rest)) after

/-- What is found are blocks. -/
theorem isBlocks_of_blocks? {steps start : Nat} {s s' : BitSource} {before : Bytes} {out : Output}
    (hstart : (start + s.bits.length) % 8 = 0)
    (h : blocks? steps s before.toArray = some (out, s')) :
    ∃ w, IsBlocks start before w out.toList ∧ s.bits = w ++ s'.bits := by
  induction steps generalizing start s before with
  | zero => cases h
  | succ steps ih =>
    rw [blocks?] at h
    split at h
    · cases h
    next isLast s₁ hread =>
    obtain ⟨_, rfl, hs⟩ := BitSource.reads_bit?.sound hread
    rw [hs, List.length_append, List.length_singleton, ← Nat.add_assoc] at hstart
    split at h
    · cases h
    next between s₂ hblock =>
    obtain ⟨w, hw, hs₁⟩ := isBlock_of_block? hstart hblock
    cases isLast with
    | true =>
      obtain ⟨rfl, rfl⟩ := Prod.mk.inj (Option.some.inj h)
      exact ⟨_, .last hw, by rw [hs, hs₁]; rfl⟩
    | false =>
      rw [hs₁, List.length_append, ← Nat.add_assoc] at hstart
      obtain ⟨rest, hrest, hs₂⟩ := ih hstart h
      exact ⟨_, .more hw hrest, by rw [hs, hs₁, hs₂]; simp⟩

/-- Blocks are found, with more steps than bits. -/
theorem IsBlocks.exists_blocks? {start : Nat} {before after : Bytes} {w : List Bool}
    (h : IsBlocks start before w after) {steps : Nat} (hsteps : w.length < steps) {s : BitSource}
    {t : List Bool} (hstart : (start + s.bits.length) % 8 = 0) (hs : s.bits = w ++ t) :
    ∃ s', blocks? steps s before.toArray = some (after.toArray, s') ∧ s'.bits = t := by
  induction h generalizing steps s with
  | @last start before after w h =>
    obtain ⟨steps, rfl⟩ := Nat.exists_eq_succ_of_ne_zero (Nat.ne_zero_of_lt hsteps)
    rw [List.cons_append, ← List.singleton_append] at hs
    obtain ⟨s₁, hread, hs₁⟩ := BitSource.reads_bit?.complete rfl hs
    rw [hs, List.length_append, List.length_singleton, ← hs₁, ← Nat.add_assoc] at hstart
    obtain ⟨s', hblock, hs'⟩ := h.exists_block? hstart hs₁
    refine ⟨s', ?_, hs'⟩
    simp only [blocks?, hread, hblock, if_true]
  | @more start before between after w rest h hrest ih =>
    obtain ⟨steps, rfl⟩ := Nat.exists_eq_succ_of_ne_zero (Nat.ne_zero_of_lt hsteps)
    rw [List.cons_append, ← List.singleton_append] at hs
    obtain ⟨s₁, hread, hs₁⟩ := BitSource.reads_bit?.complete rfl hs
    rw [hs, List.length_append, List.length_singleton, ← hs₁, ← Nat.add_assoc] at hstart
    rw [List.append_assoc] at hs₁
    obtain ⟨s₂, hblock, hs₂⟩ := h.exists_block? hstart hs₁
    rw [hs₁, List.length_append, ← hs₂, ← Nat.add_assoc] at hstart
    rw [List.length_cons, List.length_append] at hsteps
    have hrestSteps : rest.length < steps := by omega
    obtain ⟨s', hblocks, hs'⟩ := ih hrestSteps hstart hs₂
    refine ⟨s', ?_, hs'⟩
    simp only [blocks?, hread, hblock, Bool.false_eq_true, if_false, hblocks]

end Inflate

/-! ### Streams -/

/-- **A compressed stream of data**: blocks, and less than a byte of bits after them. -/
def IsStream (stream data : Bytes) : Prop :=
  ∃ w pad, bitsOf stream = w ++ pad ∧ pad.length < 8 ∧ Inflate.IsBlocks 0 [] w data

/-- **Data are found where bytes begin with a stream of these data**, and what follows the stream is
left. -/
theorem inflate?_eq_some_iff {b data rest : Bytes} :
    inflate? b = some (data, rest) ↔ ∃ stream, b = stream ++ rest ∧ IsStream stream data := by
  have hstart : (0 + (BitSource.ofBytes b).bits.length) % 8 = 0 := by
    rw [BitSource.bits_ofBytes, length_bitsOf]
    omega
  rw [inflate?, Option.map_eq_some_iff]
  constructor
  · rintro ⟨⟨out, s⟩, hblocks, heq⟩
    obtain ⟨rfl, rfl⟩ := Prod.mk.inj heq
    obtain ⟨w, hw, hb⟩ := Inflate.isBlocks_of_blocks? hstart hblocks
    obtain ⟨pad, hpad, hs⟩ := s.exists_bits_eq
    rw [BitSource.bits_ofBytes, hs, ← List.append_assoc] at hb
    obtain ⟨stream, rfl, hstream⟩ := exists_of_bitsOf_eq_append hb
    exact ⟨stream, rfl, w, pad, hstream, by omega, hw⟩
  · rintro ⟨stream, rfl, w, pad, hstream, hpad, hw⟩
    have hb : (BitSource.ofBytes (stream ++ rest)).bits = w ++ (pad ++ bitsOf rest) := by
      rw [BitSource.bits_ofBytes, bitsOf_append, hstream, List.append_assoc]
    have hsteps : w.length < 8 * (stream ++ rest).length + 1 := by
      rw [← length_bitsOf, ← BitSource.bits_ofBytes, hb, List.length_append]
      omega
    obtain ⟨s, hblocks, hs⟩ := hw.exists_blocks? hsteps hstart hb
    exact ⟨(data.toArray, s), hblocks, by rw [BitSource.bytes_eq_of_bits_eq hpad hs]⟩

end Courier.Gzip
