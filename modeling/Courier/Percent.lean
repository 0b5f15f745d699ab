import Courier.Text.Hex

/-!
# Percent coding

Every byte other than a letter, a digit or one of `-_.~` is written as a percent sign
and two upper-case digits.

* `Courier.Percent.encode` – the coding;
* `Courier.Percent.decode` – its inverse, total: a percent sign that two hexadecimal
  digits do not follow stands for itself;
* `Courier.Percent.decode_encode` – decoding undoes the coding;
* `Courier.Percent.isCodeChar_of_mem_encode` – the characters that a coding holds.
-/

namespace Courier.Percent

/-- The bytes that stand for themselves. -/
def isPlain (b : UInt8) : Bool :=
  (65 ≤ b && b ≤ 90) || (97 ≤ b && b ≤ 122) || (48 ≤ b && b ≤ 57)
    || b == 45 || b == 95 || b == 46 || b == 126

/-- The coding of one byte. -/
def encodeByte (b : UInt8) : List Char :=
  if isPlain b then [Char.ofNat b.toNat] else '%' :: Hex.pair Hex.upper b

/-- The coding of a byte string. -/
def encode (b : Bytes) : String := String.ofList (b.flatMap encodeByte)

/-- The byte that two digits spell. -/
def pairValue? (h l : UInt8) : Option UInt8 :=
  match Hex.value? h.toNat, Hex.value? l.toNat with
  | some x, some y => some (UInt8.ofNat (16 * x + y))
  | _, _ => none

/-- The bytes that a coded byte string stands for. -/
def decode : Bytes → Bytes
  | [] => []
  | b :: rest =>
    match rest with
    | [] => [b]
    | [h] => [b, h]
    | h :: l :: tail =>
      if b = 37 then
        match pairValue? h l with
        | some v => v :: decode tail
        | none => b :: decode (h :: l :: tail)
      else b :: decode (h :: l :: tail)

/-- Only no bytes at all stand for no bytes. -/
theorem decode_eq_nil_iff {b : Bytes} : decode b = [] ↔ b = [] := by
  fun_cases decode b <;> simp [*]

/-- The bytes of one coded byte. -/
def codeBytes (b : UInt8) : Bytes :=
  if isPlain b then [b] else [37, Hex.upperByte (b.toNat / 16), Hex.upperByte (b.toNat % 16)]

/-- The coding of one byte, as text and as bytes. -/
theorem utf8_encodeByte (b : UInt8) :
    (encodeByte b).flatMap String.utf8EncodeChar = codeBytes b := by
  have key : ∀ n < 256, (encodeByte (UInt8.ofNat n)).flatMap String.utf8EncodeChar
      = codeBytes (UInt8.ofNat n) := by decide +kernel
  simpa using key b.toNat b.toNat_lt

/-- The two digits of a byte spell it. -/
theorem pairValue?_upperByte (b : UInt8) :
    pairValue? (Hex.upperByte (b.toNat / 16)) (Hex.upperByte (b.toNat % 16)) = some b := by
  have key : ∀ n < 256, pairValue? (Hex.upperByte ((UInt8.ofNat n).toNat / 16))
      (Hex.upperByte ((UInt8.ofNat n).toNat % 16)) = some (UInt8.ofNat n) := by decide +kernel
  simpa using key b.toNat b.toNat_lt

/-- A byte that is no percent sign is read as itself. -/
theorem decode_cons_of_ne {b : UInt8} (h : b ≠ 37) (r : Bytes) :
    decode (b :: r) = b :: decode r := by
  match r with
  | [] => simp [decode]
  | [x] => simp [decode]
  | x :: y :: r => simp [decode, h]

/-- One coded byte in front is read back, whatever follows. -/
theorem decode_codeBytes_append (b : UInt8) (r : Bytes) :
    decode (codeBytes b ++ r) = b :: decode r := by
  by_cases h : isPlain b = true
  · have hb : b ≠ 37 := by rintro rfl; exact absurd h (by decide)
    simpa [codeBytes, h] using decode_cons_of_ne hb r
  · simp [codeBytes, h, decode, pairValue?_upperByte]

/-- **Decoding undoes the coding.** -/
theorem decode_encode (b : Bytes) : decode (utf8 (encode b)) = b := by
  have key : ∀ b : Bytes, decode ((b.flatMap encodeByte).flatMap String.utf8EncodeChar) = b := by
    intro b
    induction b with
    | nil => simp [decode]
    | cons x b ih =>
      rw [List.flatMap_cons, List.flatMap_append, utf8_encodeByte, decode_codeBytes_append, ih]
  simpa [encode, utf8] using key b

/-- Byte strings with the same coding are equal. -/
theorem encode_inj {a b : Bytes} : encode a = encode b ↔ a = b := by
  constructor
  · intro h
    rw [← decode_encode a, h, decode_encode]
  · rintro rfl
    rfl

/-- The characters of a coding. -/
def isCodeChar (c : Char) : Bool := c.isAlphanum || "-_.~%".toList.contains c

/-- **A coding holds no other characters**, so that what it holds can be told from what is
written around it. -/
theorem isCodeChar_of_mem_encode {c : Char} {b : Bytes} (h : c ∈ (encode b).toList) :
    isCodeChar c = true := by
  have key : ∀ n < 256, (encodeByte (UInt8.ofNat n)).all isCodeChar = true := by decide +kernel
  rw [encode, String.toList_ofList] at h
  obtain ⟨x, -, hx⟩ := List.mem_flatMap.1 h
  have hall := key x.toNat x.toNat_lt
  rw [UInt8.ofNat_toNat] at hall
  exact List.all_eq_true.1 hall c hx

end Courier.Percent
