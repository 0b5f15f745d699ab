import Courier.Gzip.Member
import Courier.Proofs.Gzip.Stream
import Courier.Proofs.Text.Separated

/-!
# What a compressed body is

A compressed body is a header, a compressed stream, and the checksum and the length of the data
(`Courier.Gzip.IsMember`). The header has parts that are there only if a flag is set:

| flag | part |
|---|---|
| 2 | a field with its length in front |
| 3 | a name, ended by a zero |
| 4 | a comment, ended by a zero |
| 1 | the lower half of the checksum of the header before it |

**The data of a body are found exactly where bytes begin with one**, whatever follows it
(`Courier.gunzip?_eq_some_iff`). So data come back from every body that was made of them, however
its stream was written; and `Courier.gzip` makes one (`Courier.Gzip.isMember_gzip`).
-/

namespace Courier

namespace Gzip

/-! ### The parts of a header -/

/-- **A step goes over a part** of which a property tells what it may be. -/
def Skips (step : Bytes → Option Bytes) (IsPart : Bytes → Prop) : Prop :=
  ∀ b r, step b = some r ↔ ∃ part, IsPart part ∧ b = part ++ r

/-- A field with its length in front. -/
def IsCounted (part : Bytes) : Prop :=
  ∃ field : Bytes, field.length ≤ 65535 ∧ part = littleEndian 2 field.length ++ field

/-- A name that is ended by a zero. -/
def IsEnded (part : Bytes) : Prop :=
  ∃ name : Bytes, 0 ∉ name ∧ name.length ≤ longestName ∧ part = name ++ [0]

/-- A part that is there only if a flag is set. -/
def IsOptional (set : Bool) (IsPart : Bytes → Prop) (part : Bytes) : Prop :=
  if set then IsPart part else part = []

theorem skips_afterCounted? : Skips afterCounted? IsCounted := by
  intro b r
  constructor
  · intro h
    unfold afterCounted? at h
    split at h
    next l₀ l₁ rest =>
      dsimp only at h
      split at h
      next hlength =>
        obtain rfl := Option.some.inj h
        have hfield : (rest.take (l₀.toNat + 256 * l₁.toNat)).length = l₀.toNat + 256 * l₁.toNat :=
          List.length_take_of_le hlength
        have h₀ := l₀.toNat_lt
        have h₁ := l₁.toNat_lt
        refine ⟨_, ⟨rest.take (l₀.toNat + 256 * l₁.toNat), by omega, rfl⟩, ?_⟩
        rw [hfield, littleEndian_two, List.append_assoc, List.take_append_drop]
        rfl
      · cases h
    · cases h
  · rintro ⟨_, ⟨field, hfield, rfl⟩, rfl⟩
    have hcons : littleEndian 2 field.length ++ field ++ r
        = UInt8.ofNat field.length :: UInt8.ofNat (field.length / 256) :: (field ++ r) := rfl
    rw [hcons]
    unfold afterCounted?
    dsimp only
    have hle : field.length ≤ (field ++ r).length := by
      rw [List.length_append]
      exact Nat.le_add_right _ _
    rw [toNat_ofNat_add (Nat.lt_succ_of_le hfield), if_pos hle, List.drop_left]

theorem skips_afterZero? : Skips afterZero? IsEnded := by
  intro b r
  constructor
  · intro h
    unfold afterZero? at h
    split at h
    next name x rest hspan =>
      obtain ⟨rfl, hname, hx⟩ := span_eq_iff.1 hspan
      obtain rfl : x = 0 := by simpa using hx x rfl
      split at h
      next hlength =>
        obtain rfl := Option.some.inj h
        refine ⟨_, ⟨name, fun hzero => ?_, hlength, rfl⟩, List.append_cons name 0 rest⟩
        simpa using hname 0 hzero
      · cases h
    · cases h
  · rintro ⟨_, ⟨name, hname, hlength, rfl⟩, rfl⟩
    have hspan : (name ++ [0] ++ r).span (· ≠ 0) = (name, 0 :: r) := by
      rw [← List.append_cons]
      refine span_append (fun x hx => ?_) fun x hx => ?_
      · exact decide_eq_true (ne_of_mem_of_not_mem hx hname)
      · obtain rfl := Option.some.inj hx
        rfl
    unfold afterZero?
    rw [hspan]
    dsimp only
    rw [if_pos hlength]

/-- A step that is taken only if a flag is set goes over a part that is there only then. -/
theorem Skips.onlyIf {step : Bytes → Option Bytes} {IsPart : Bytes → Prop}
    (h : Skips step IsPart) (set : Bool) : Skips (onlyIf set step) (IsOptional set IsPart) := by
  intro b r
  cases set with
  | false =>
    constructor
    · intro hb
      exact ⟨[], rfl, Option.some.inj hb⟩
    · rintro ⟨part, hpart, rfl⟩
      obtain rfl : part = [] := hpart
      rfl
  | true => exact h b r

/-- One step after the other. -/
theorem Skips.bind {step next : Bytes → Option Bytes} {IsPart IsNext : Bytes → Prop}
    (h : Skips step IsPart) (hnext : Skips next IsNext) :
    Skips (fun b => step b >>= next) fun part => ∃ p q, IsPart p ∧ IsNext q ∧ part = p ++ q := by
  intro b r
  rw [Option.bind_eq_bind, Option.bind_eq_some_iff]
  constructor
  · rintro ⟨r', hb, hr'⟩
    obtain ⟨p, hp, rfl⟩ := (h b r').1 hb
    obtain ⟨q, hq, rfl⟩ := (hnext r' r).1 hr'
    exact ⟨p ++ q, ⟨p, q, hp, hq, rfl⟩, (List.append_assoc _ _ _).symm⟩
  · rintro ⟨_, ⟨p, q, hp, hq, rfl⟩, rfl⟩
    exact ⟨q ++ r, (h _ _).2 ⟨p, hp, List.append_assoc _ _ _⟩, (hnext _ _).2 ⟨q, hq, rfl⟩⟩

/-! ### The header -/

/-- **A header**: the mark, the flags, six bytes that are not read, and the optional parts. -/
inductive IsHeader : Bytes → Prop
  | intro {flags : UInt8} {details extra name comment sum : Bytes} (hflags : flags < 32)
      (hdetails : details.length = 6) (hextra : IsOptional (flags.toNat.testBit 2) IsCounted extra)
      (hname : IsOptional (flags.toNat.testBit 3) IsEnded name)
      (hcomment : IsOptional (flags.toNat.testBit 4) IsEnded comment)
      (hsum : IsOptional (flags.toNat.testBit 1) (· = littleEndian 2
        (checksum (mark ++ flags :: (details ++ (extra ++ name ++ comment)))).toNat) sum) :
      IsHeader (mark ++ flags :: (details ++ (extra ++ name ++ comment)) ++ sum)

/-- The sum of a header is two bytes that follow it. -/
theorem afterHeaderSum?_eq_some_iff {header rest r : Bytes} :
    afterHeaderSum? (header ++ rest) rest = some r ↔
      rest = littleEndian 2 (checksum header).toNat ++ r := by
  have hheader : (header ++ rest).take ((header ++ rest).length - rest.length) = header := by
    rw [List.length_append, Nat.add_sub_cancel, List.take_left]
  unfold afterHeaderSum?
  rw [hheader]
  generalize (checksum header).toNat = n
  constructor
  · intro h
    split at h
    next c₀ c₁ r' =>
      dsimp only at h
      split at h
      next hsum =>
        obtain rfl := Option.some.inj h
        rw [← littleEndian_two_mod n, ← hsum, littleEndian_two]
        rfl
      · cases h
    · cases h
  · rintro rfl
    have hcons : littleEndian 2 n ++ r = UInt8.ofNat n :: UInt8.ofNat (n / 256) :: r := rfl
    rw [hcons]
    dsimp only
    rw [UInt8.toNat_ofNat', UInt8.toNat_ofNat', if_pos (by omega)]

/-- The sum is there only if its flag is set. -/
theorem onlyIf_afterHeaderSum?_eq_some_iff {set : Bool} {header rest r : Bytes} :
    onlyIf set (afterHeaderSum? (header ++ rest)) rest = some r ↔
      ∃ sum, IsOptional set (· = littleEndian 2 (checksum header).toNat) sum ∧ rest = sum ++ r := by
  cases set with
  | false => simp [onlyIf, IsOptional]
  | true =>
    refine afterHeaderSum?_eq_some_iff.trans ?_
    simp [IsOptional]

/-- The mark, the flags and six bytes tell which parts are gone over. -/
theorem afterHeader?_append {flags : UInt8} {details rest r : Bytes}
    (hdetails : details.length = 6) :
    afterHeader? (mark ++ flags :: (details ++ rest)) = some r ↔
      flags < 32 ∧ ∃ extra name comment sum,
        IsOptional (flags.toNat.testBit 2) IsCounted extra ∧
        IsOptional (flags.toNat.testBit 3) IsEnded name ∧
        IsOptional (flags.toNat.testBit 4) IsEnded comment ∧
        IsOptional (flags.toNat.testBit 1) (· = littleEndian 2
          (checksum (mark ++ flags :: (details ++ (extra ++ name ++ comment)))).toNat) sum ∧
        rest = extra ++ name ++ comment ++ sum ++ r := by
  have hparts := ((skips_afterCounted?.onlyIf (flags.toNat.testBit 2)).bind
    (skips_afterZero?.onlyIf (flags.toNat.testBit 3))).bind
      (skips_afterZero?.onlyIf (flags.toNat.testBit 4))
  -- what the sum is taken of is all that stands before it
  have hbefore (parts r' : Bytes) : mark ++ flags :: (details ++ (parts ++ r'))
      = mark ++ flags :: (details ++ parts) ++ r' := by simp
  match details, hdetails with
  | [d₀, d₁, d₂, d₃, d₄, d₅], _ =>
    have hcons : mark ++ flags :: ([d₀, d₁, d₂, d₃, d₄, d₅] ++ rest)
        = 0x1F :: 0x8B :: 8 :: flags :: d₀ :: d₁ :: d₂ :: d₃ :: d₄ :: d₅ :: rest := rfl
    unfold afterHeader?
    rw [hcons]
    dsimp only
    rw [← hcons]
    by_cases hflags : flags < 32
    · rw [if_pos ⟨rfl, hflags⟩, Option.bind_eq_bind, Option.bind_eq_some_iff]
      constructor
      · rintro ⟨r', hread, hreadSum⟩
        obtain ⟨_, ⟨_, comment, ⟨extra, name, hextra, hname, rfl⟩, hcomment, rfl⟩, rfl⟩ :=
          (hparts rest r').1 hread
        rw [hbefore] at hreadSum
        obtain ⟨sum, hsum, rfl⟩ := onlyIf_afterHeaderSum?_eq_some_iff.1 hreadSum
        exact ⟨hflags, extra, name, comment, sum, hextra, hname, hcomment, hsum, by simp⟩
      · rintro ⟨-, extra, name, comment, sum, hextra, hname, hcomment, hsum, rfl⟩
        rw [List.append_assoc _ sum]
        refine ⟨sum ++ r, (hparts _ _).2
          ⟨_, ⟨_, comment, ⟨extra, name, hextra, hname, rfl⟩, hcomment, rfl⟩, rfl⟩, ?_⟩
        rw [hbefore]
        exact onlyIf_afterHeaderSum?_eq_some_iff.2 ⟨sum, hsum, rfl⟩
    · rw [if_neg fun hcond => hflags hcond.2]
      simp [hflags]

/-- **A header is gone over** where bytes begin with one. -/
theorem skips_afterHeader? : Skips afterHeader? IsHeader := by
  intro b r
  constructor
  · intro h
    have hb := h
    unfold afterHeader? at hb
    split at hb
    next m₀ m₁ m₂ flags d₀ d₁ d₂ d₃ d₄ d₅ rest =>
      dsimp only at hb
      split at hb
      next hmark =>
        have hcut : m₀ :: m₁ :: m₂ :: flags :: d₀ :: d₁ :: d₂ :: d₃ :: d₄ :: d₅ :: rest
            = mark ++ flags :: ([d₀, d₁, d₂, d₃, d₄, d₅] ++ rest) := by
          rw [← hmark.1]
          rfl
        rw [hcut] at h ⊢
        obtain ⟨hflags, extra, name, comment, sum, hextra, hname, hcomment, hsum, rfl⟩ :=
          (afterHeader?_append rfl).1 h
        exact ⟨_, .intro hflags rfl hextra hname hcomment hsum, by simp⟩
      · cases hb
    · cases hb
  · rintro ⟨_, ⟨hflags, hdetails, hextra, hname, hcomment, hsum⟩, rfl⟩
    have hparts := (afterHeader?_append (r := r) hdetails).2
      ⟨hflags, _, _, _, _, hextra, hname, hcomment, hsum, rfl⟩
    simpa using hparts

/-! ### The body -/

/-- **A compressed body of data**: a header, a stream of the data, and their checksum and length. -/
def IsMember (member data : Bytes) : Prop :=
  ∃ header stream, IsHeader header ∧ IsStream stream data ∧
    member = header ++ stream ++ trailer data

theorem length_trailer (data : Bytes) : (trailer data).length = 8 := by
  rw [trailer, List.length_append, length_littleEndian, length_littleEndian]

end Gzip

/-- **Data are found where bytes begin with a compressed body of these data**, whatever follows. -/
theorem gunzip?_eq_some_iff {b data : Bytes} :
    gunzip? b = some data ↔ ∃ member rest, b = member ++ rest ∧ Gzip.IsMember member data := by
  constructor
  · intro h
    unfold gunzip? at h
    split at h
    next data' rest hread =>
      obtain ⟨r, hafter, hinflate⟩ := Option.bind_eq_some_iff.1 hread
      obtain ⟨header, hheader, rfl⟩ := (Gzip.skips_afterHeader? b r).1 hafter
      obtain ⟨stream, rfl, hstream⟩ := Gzip.inflate?_eq_some_iff.1 hinflate
      split at h
      next htrailer =>
        obtain rfl := Option.some.inj h
        refine ⟨_, rest.drop 8, ?_, header, stream, hheader, hstream, rfl⟩
        rw [← htrailer, List.append_assoc, List.take_append_drop, List.append_assoc]
      · cases h
    · cases h
  · rintro ⟨_, rest, rfl, header, stream, hheader, hstream, rfl⟩
    have hread : Gzip.afterHeader? (header ++ stream ++ Gzip.trailer data ++ rest) >>= Gzip.inflate?
        = some (data, Gzip.trailer data ++ rest) := by
      refine Option.bind_eq_some_iff.2 ⟨stream ++ (Gzip.trailer data ++ rest), ?_, ?_⟩
      · exact (Gzip.skips_afterHeader? _ _).2 ⟨header, hheader, by simp⟩
      · exact Gzip.inflate?_eq_some_iff.2 ⟨stream, rfl, hstream⟩
    unfold gunzip?
    rw [hread]
    dsimp only
    rw [List.take_left' (Gzip.length_trailer data), if_pos rfl]

namespace Gzip

/-! ### The body that is written -/

theorem isHeader_plainHeader : IsHeader plainHeader :=
  @IsHeader.intro 0 [0, 0, 0, 0, 0, 0xFF] [] [] [] [] (by decide) rfl rfl rfl rfl rfl

/-- A stored block that is written begins with a whole byte, of which it skips five bits. -/
theorem bitsOf_storedBlock (isLast : Bool) (data : Bytes) :
    bitsOf (storedBlock isLast data) = isLast ::
      (numeral 2 0 ++ (List.replicate 5 false ++ bitsOf (Inflate.storedBytes data))) := by
  cases isLast <;> rfl

/-- A stored block after the bit that tells whether it is the last. -/
theorem isBlock_storedBlock {start : Nat} (hstart : start % 8 = 0) (before : Bytes) {data : Bytes}
    (hdata : data.length ≤ longestBlock) : Inflate.IsBlock (start + 1) before
      (numeral 2 0 ++ (List.replicate 5 false ++ bitsOf (Inflate.storedBytes data)))
      (before ++ data) :=
  .stored (by decide) (by rw [List.length_replicate]; omega) hdata

/-- **What is written are blocks**, if they begin at a whole byte. -/
theorem isBlocks_storedBlocks {start : Nat} (hstart : start % 8 = 0) (before data : Bytes) :
    Inflate.IsBlocks start before (bitsOf (storedBlocks data)) (before ++ data) := by
  fun_induction storedBlocks data generalizing start before with
  | case1 data hdata =>
    rw [bitsOf_storedBlock]
    exact .last (isBlock_storedBlock hstart before hdata)
  | case2 data hdata ih =>
    rw [bitsOf_append, bitsOf_storedBlock, List.cons_append]
    refine .more (isBlock_storedBlock hstart before (List.length_take_le _ _)) ?_
    have hend : (start + 1 + (numeral 2 0 ++ (List.replicate 5 false
        ++ bitsOf (Inflate.storedBytes (data.take longestBlock)))).length) % 8 = 0 := by
      rw [List.length_append, List.length_append, length_numeral, List.length_replicate,
        length_bitsOf]
      omega
    have hrest := ih hend (before ++ data.take longestBlock)
    rwa [List.append_assoc, List.take_append_drop] at hrest

/-- What is written are compressed bodies. -/
theorem isMember_gzip (data : Bytes) : IsMember (gzip data) data := by
  have hblocks := isBlocks_storedBlocks (Nat.zero_mod 8) [] data
  exact ⟨plainHeader, storedBlocks data, isHeader_plainHeader,
    ⟨_, [], (List.append_nil _).symm, by decide, hblocks⟩, rfl⟩

end Gzip

end Courier
