import Courier.Proofs.Url.Query

/-!
# What is read of a text that was put into a query as it is

A text that is put into a query without being coded goes through three hands. The query is coded
where an address demands it, a sign for a space becomes a space, and codes become bytes. The
first of these is undone by the last (`Courier.Query.decodeText_encode_specialQuery`), so what is
read is the text with its signs for spaces and its own codes replaced.

It is the text itself only if there are none (`Courier.Query.decodeText_utf8_eq_self_iff`). For
the codes this is not plain to see, since what a code leaves might make up for it in another
place. It cannot: a code is three characters of ASCII and leaves one byte, and nothing else that
is read adds any. So the number of characters of ASCII (`Courier.asciiChars`) tells the two
apart.
-/

namespace Courier

/-! ### Characters of ASCII -/

/-- How many characters of ASCII there are. -/
def asciiChars (cs : List Char) : Nat := cs.countP fun c => c.toNat < 0x80

/-- How many bytes of ASCII there are. -/
def asciiBytes (b : Bytes) : Nat := b.countP (· < 0x80)

theorem asciiChars_cons (c : Char) (cs : List Char) :
    asciiChars (c :: cs) = asciiChars cs + if c.toNat < 0x80 then 1 else 0 := by
  simp [asciiChars, List.countP_cons]

theorem asciiBytes_cons (x : UInt8) (b : Bytes) :
    asciiBytes (x :: b) = asciiBytes b + if x < 0x80 then 1 else 0 := by
  simp [asciiBytes, List.countP_cons]

theorem asciiBytes_append (b r : Bytes) : asciiBytes (b ++ r) = asciiBytes b + asciiBytes r :=
  List.countP_append

/-- **Each character of ASCII is one byte of ASCII**, and no other character has any. -/
theorem asciiBytes_utf8 (s : String) : asciiBytes (utf8 s) = asciiChars s.toList := by
  have hone : ∀ c, asciiBytes (String.utf8EncodeChar c) = if c.toNat < 0x80 then 1 else 0 := by
    intro c
    split
    · rename_i hc
      have hbyte : (UInt8.ofNat c.toNat) < 0x80 := by
        rw [UInt8.lt_iff_toNat_lt, Utf8.toNat_ofNat_of_lt (by omega)]
        exact hc
      rw [UrlCoding.utf8EncodeChar_of_lt hc]
      simp [asciiBytes, hbyte]
    · rename_i hc
      refine List.countP_eq_zero.2 fun b hb hlt => hc ?_
      have hb' : b < 0x80 := of_decide_eq_true hlt
      rw [UrlCoding.eq_ofNat_of_mem_utf8EncodeChar hb' hb]
      have hn : b.toNat < 0x80 := UInt8.lt_iff_toNat_lt.1 hb'
      rwa [Utf8.toNat_charOfNat (Or.inl (by omega))]
  rw [utf8]
  induction s.toList with
  | nil => rfl
  | cons c cs ih =>
    rw [List.flatMap_cons, asciiBytes_append, hone, ih, asciiChars_cons, Nat.add_comm]

/-- What is read of bytes has no more characters of ASCII than they have bytes of ASCII. -/
theorem asciiChars_lossy_le (b : Bytes) : asciiChars (Utf8.lossy b).toList ≤ asciiBytes b := by
  have key : asciiChars ((Utf8.scalars b).map (·.getD '\uFFFD')) ≤ asciiBytes b := by
    induction b using Utf8.scalars_induction with
    | nil => exact Nat.le_refl 0
    | ascii b₀ rest hread h₀ ih =>
      rw [hread, List.map_cons, asciiChars_cons, asciiBytes_cons, if_pos h₀]
      split <;> omega
    | other part x rest hread hpart hx ih =>
      have hwide : ¬(x.getD '\uFFFD').toNat < 0x80 := by
        rcases x with _ | c
        · decide
        · exact Nat.not_lt.2 (hx c rfl)
      rw [hread, List.map_cons, asciiChars_cons, asciiBytes_append, if_neg hwide]
      omega
  rwa [Utf8.toList_lossy]

/-! ### Codes -/

/-- Digits are among ASCII. -/
theorem Hex.lt_of_isSome_value? {n : Nat} (hn : (value? n).isSome = true) : n < 0x80 := by
  unfold value? at hn
  split_ifs at hn
  · omega
  · omega
  · omega
  · cases hn

namespace Percent

/-- Whether bytes begin with the digits of a code, in either case. -/
def BeginsDigits (b : Bytes) : Prop :=
  ∃ h l t, b = h :: l :: t ∧ (pairValue? h l).isSome = true

/-- Whether a code stands in bytes: a percent sign and two digits. -/
def HasCode (b : Bytes) : Prop := ∃ before after, b = before ++ 37 :: after ∧ BeginsDigits after

theorem not_beginsDigits_nil : ¬BeginsDigits [] := by
  rintro ⟨h, l, t, he, -⟩
  cases he

theorem not_beginsDigits_singleton (x : UInt8) : ¬BeginsDigits [x] := by
  rintro ⟨h, l, t, he, -⟩
  cases he

theorem beginsDigits_cons_cons {h l : UInt8} {t : Bytes} :
    BeginsDigits (h :: l :: t) ↔ (pairValue? h l).isSome = true := by
  constructor
  · rintro ⟨h', l', t', he, hv⟩
    obtain ⟨rfl, rfl, rfl⟩ : h = h' ∧ l = l' ∧ t = t' := by simpa using he
    exact hv
  · intro hv
    exact ⟨h, l, t, rfl, hv⟩

theorem not_hasCode_nil : ¬HasCode [] := by
  rintro ⟨before, after, he, -⟩
  cases before <;> cases he

theorem hasCode_cons {x : UInt8} {b : Bytes} :
    HasCode (x :: b) ↔ x = 37 ∧ BeginsDigits b ∨ HasCode b := by
  constructor
  · rintro ⟨before, after, he, hafter⟩
    rcases before with _ | ⟨y, before⟩
    · obtain ⟨rfl, rfl⟩ := List.cons.inj he
      exact .inl ⟨rfl, hafter⟩
    · obtain ⟨rfl, rfl⟩ := List.cons.inj he
      exact .inr ⟨before, after, rfl, hafter⟩
  · rintro (⟨rfl, hb⟩ | ⟨before, after, rfl, hafter⟩)
    · exact ⟨[], b, rfl, hb⟩
    · exact ⟨x :: before, after, rfl, hafter⟩

theorem isSome_pairValue?_iff {h l : UInt8} :
    (pairValue? h l).isSome = true ↔
      (Hex.value? h.toNat).isSome = true ∧ (Hex.value? l.toNat).isSome = true := by
  unfold pairValue?
  rcases Hex.value? h.toNat with _ | m <;> rcases Hex.value? l.toNat with _ | n <;> simp

/-- **Decoding makes bytes of ASCII fewer**, unless there is no code, and then it does
nothing. -/
theorem decode_eq_or_lt (b : Bytes) :
    ¬HasCode b ∧ decode b = b ∨ HasCode b ∧ asciiBytes (decode b) < asciiBytes b := by
  fun_induction decode b with
  | case1 => exact .inl ⟨not_hasCode_nil, rfl⟩
  | case2 x =>
    refine .inl ⟨?_, rfl⟩
    simp [hasCode_cons, not_hasCode_nil, not_beginsDigits_nil]
  | case3 x y =>
    refine .inl ⟨?_, rfl⟩
    simp [hasCode_cons, not_hasCode_nil, not_beginsDigits_nil, not_beginsDigits_singleton]
  | case4 h l tail v hv ih =>
    have hsome : (pairValue? h l).isSome = true := by rw [hv]; rfl
    obtain ⟨hh, hl⟩ := isSome_pairValue?_iff.1 hsome
    have hle : asciiBytes (decode tail) ≤ asciiBytes tail := by
      rcases ih with ⟨-, hsame⟩ | ⟨-, hlt⟩
      · rw [hsame]
      · exact hlt.le
    have hpercent : (37 : UInt8) < 0x80 := by decide
    have hh' : h < 0x80 := UInt8.lt_iff_toNat_lt.2 (Hex.lt_of_isSome_value? hh)
    have hl' : l < 0x80 := UInt8.lt_iff_toNat_lt.2 (Hex.lt_of_isSome_value? hl)
    refine .inr ⟨hasCode_cons.2 (.inl ⟨rfl, beginsDigits_cons_cons.2 hsome⟩), ?_⟩
    simp only [asciiBytes_cons, hpercent, hh', hl', if_true]
    split <;> omega
  | case5 h l tail hv ih =>
    have hnot : ¬BeginsDigits (h :: l :: tail) := by simp [beginsDigits_cons_cons, hv]
    simpa [hasCode_cons (x := 37), hnot, asciiBytes_cons 37] using ih
  | case6 x h l tail hx ih =>
    simpa [hasCode_cons (x := x), hx, asciiBytes_cons x] using ih

/-- **How bytes may be written**: each as it is, or as a code unless it is a byte that codes are
made of. -/
inductive Writes : Bytes → Bytes → Prop
  | nil : Writes [] []
  | plain {w b : Bytes} (x : UInt8) (h : Writes w b) : Writes (x :: w) (x :: b)
  | code {w b : Bytes} {x : UInt8} (hx : x ≠ 37) (hdigit : Hex.value? x.toNat = none)
    (h : Writes w b) :
    Writes (37 :: Hex.upperByte (x.toNat / 16) :: Hex.upperByte (x.toNat % 16) :: w) (x :: b)

theorem decode_code (x : UInt8) (w : Bytes) :
    decode (37 :: Hex.upperByte (x.toNat / 16) :: Hex.upperByte (x.toNat % 16) :: w)
      = x :: decode w := by
  simp [decode, pairValue?_upperByte]

/-- A percent sign that begins no code is read as itself. -/
theorem decode_percent {b : Bytes} (hb : ¬BeginsDigits b) : decode (37 :: b) = 37 :: decode b := by
  match b with
  | [] => simp [decode]
  | [x] => simp [decode]
  | x :: y :: t =>
    have hnone : pairValue? x y = none :=
      Option.not_isSome_iff_eq_none.1 (mt beginsDigits_cons_cons.2 hb)
    simp [decode, hnone]

namespace Writes

variable {w b : Bytes}

/-- A digit is written as it is. -/
theorem exists_of_digit {x : UInt8} (h : Writes w (x :: b))
    (hx : (Hex.value? x.toNat).isSome = true) : ∃ w', w = x :: w' ∧ Writes w' b := by
  cases h with
  | plain _ h => exact ⟨_, rfl, h⟩
  | code _ hdigit _ =>
    rw [hdigit] at hx
    cases hx

/-- What is written with a digit in front begins with the digit. -/
theorem exists_of_written_digit {x : UInt8} (h : Writes (x :: w) b)
    (hx : (Hex.value? x.toNat).isSome = true) : ∃ b', b = x :: b' ∧ Writes w b' := by
  cases h with
  | plain _ h => exact ⟨_, rfl, h⟩
  | code _ _ _ => exact absurd hx (by decide)

/-- The digits of a code are written as they are. -/
theorem exists_of_digits {x y : UInt8} (h : Writes w (x :: y :: b))
    (hv : (pairValue? x y).isSome = true) : ∃ w', w = x :: y :: w' ∧ Writes w' b := by
  obtain ⟨hx, hy⟩ := isSome_pairValue?_iff.1 hv
  obtain ⟨w₁, rfl, h₁⟩ := h.exists_of_digit hx
  obtain ⟨w₂, rfl, h₂⟩ := h₁.exists_of_digit hy
  exact ⟨w₂, rfl, h₂⟩

theorem beginsDigits_iff (h : Writes w b) : BeginsDigits w ↔ BeginsDigits b := by
  constructor
  · rintro ⟨x, y, t, rfl, hv⟩
    obtain ⟨hx, hy⟩ := isSome_pairValue?_iff.1 hv
    obtain ⟨b₁, rfl, h₁⟩ := h.exists_of_written_digit hx
    obtain ⟨b₂, rfl, h₂⟩ := h₁.exists_of_written_digit hy
    exact ⟨x, y, b₂, rfl, hv⟩
  · rintro ⟨x, y, t, rfl, hv⟩
    obtain ⟨w', rfl, -⟩ := h.exists_of_digits hv
    exact ⟨x, y, w', rfl, hv⟩

/-- **Bytes are read alike, however they are written.** -/
theorem decode_eq (h : Writes w b) : decode w = decode b := by
  -- a code in the bytes is three of them at once
  induction hn : b.length using Nat.strongRecOn generalizing w b with
  | ind n ih =>
    subst hn
    cases h with
    | nil => rfl
    | @plain w b x h =>
      by_cases hx : x = 37
      · subst hx
        by_cases hb : BeginsDigits b
        · obtain ⟨hi, lo, t, rfl, hv⟩ := hb
          obtain ⟨w', rfl, h'⟩ := h.exists_of_digits hv
          obtain ⟨v, hv⟩ := Option.isSome_iff_exists.1 hv
          simp only [decode, if_true, hv, ih t.length (by simp; omega) h' rfl]
        · rw [decode_percent hb, decode_percent (mt h.beginsDigits_iff.1 hb),
            ih b.length (by simp) h rfl]
      · rw [decode_cons_of_ne hx, decode_cons_of_ne hx, ih b.length (by simp) h rfl]
    | @code w b x hx hdigit h =>
      rw [decode_code, decode_cons_of_ne hx, ih b.length (by simp) h rfl]

end Writes

end Percent

/-! ### Codes in a text -/

/-- **A byte of ASCII stands in a text where its character does.** -/
theorem exists_of_flatMap_utf8EncodeChar_eq {c : Char} (hc : c.toNat < 0x80) {cs : List Char}
    {b r : Bytes} (h : cs.flatMap String.utf8EncodeChar = b ++ UInt8.ofNat c.toNat :: r) :
    ∃ before after, cs = before ++ c :: after ∧ before.flatMap String.utf8EncodeChar = b ∧
      after.flatMap String.utf8EncodeChar = r := by
  have hn : (UInt8.ofNat c.toNat).toNat = c.toNat := Utf8.toNat_ofNat_of_lt (by omega)
  have hlt : UInt8.ofNat c.toNat < 0x80 := UInt8.lt_iff_toNat_lt.2 (by rw [hn]; exact hc)
  induction cs generalizing b with
  | nil => simp at h
  | cons d cs ih =>
    rw [List.flatMap_cons] at h
    rcases List.append_eq_append_iff.1 h with ⟨rest, hb, hrest⟩ | ⟨rest, hd, hrest⟩
    · obtain ⟨before, after, rfl, hbefore, hafter⟩ := ih hrest
      exact ⟨d :: before, after, rfl, by rw [List.flatMap_cons, hbefore, hb], hafter⟩
    · rcases rest with _ | ⟨x, rest⟩
      · obtain ⟨before, after, rfl, hbefore, hafter⟩ := ih (b := []) hrest.symm
        refine ⟨d :: before, after, rfl, ?_, hafter⟩
        rw [List.flatMap_cons, hbefore, hd, List.append_nil, List.append_nil]
      · obtain ⟨rfl, hrest⟩ := List.cons.inj hrest
        -- the byte is one of the first character, so it is all of it
        have hmem : UInt8.ofNat c.toNat ∈ String.utf8EncodeChar d := by simp [hd]
        have hdc := UrlCoding.eq_ofNat_of_mem_utf8EncodeChar hlt hmem
        rw [hn, Char.ofNat_toNat] at hdc
        subst hdc
        rw [UrlCoding.utf8EncodeChar_of_lt hc] at hd
        obtain ⟨rfl, hrest'⟩ : b = [] ∧ rest = [] := by
          rcases b with _ | ⟨y, b⟩
          · exact ⟨rfl, by simpa using hd⟩
          · simp at hd
        subst hrest'
        exact ⟨[], cs, rfl, rfl, by simpa using hrest.symm⟩

/-- Whether a code stands in a text: a percent sign and two digits, in either case. -/
def HasCodeText (cs : List Char) : Prop :=
  ∃ before x y after, cs = before ++ '%' :: x :: y :: after ∧
    (Hex.value? x.toNat).isSome = true ∧ (Hex.value? y.toNat).isSome = true

/-- A text whose bytes begin with a digit begins with a digit. -/
theorem exists_cons_of_flatMap_utf8EncodeChar_eq {d : UInt8}
    (hd : (Hex.value? d.toNat).isSome = true) {cs : List Char} {r : Bytes}
    (h : cs.flatMap String.utf8EncodeChar = d :: r) :
    ∃ c cs', cs = c :: cs' ∧ (Hex.value? c.toNat).isSome = true ∧
      cs'.flatMap String.utf8EncodeChar = r := by
  have hlt := Hex.lt_of_isSome_value? hd
  have hn : (Char.ofNat d.toNat).toNat = d.toNat := Utf8.toNat_charOfNat (Or.inl (by omega))
  have hfront : cs.flatMap String.utf8EncodeChar
      = [] ++ UInt8.ofNat (Char.ofNat d.toNat).toNat :: r := by
    rw [hn, UInt8.ofNat_toNat, h, List.nil_append]
  obtain ⟨before, after, rfl, hbefore, hafter⟩ :=
    exists_of_flatMap_utf8EncodeChar_eq (by omega) hfront
  rcases before with _ | ⟨c, before⟩
  · exact ⟨_, after, rfl, by rwa [hn], hafter⟩
  · rw [List.flatMap_cons, List.append_eq_nil_iff] at hbefore
    exact absurd hbefore.1 String.utf8EncodeChar_ne_nil

/-- **A code stands in the bytes of a text where it stands in the text.** -/
theorem hasCode_utf8_iff {s : String} : Percent.HasCode (utf8 s) ↔ HasCodeText s.toList := by
  constructor
  · rintro ⟨before, after, he, h, l, t, rfl, hv⟩
    obtain ⟨hh, hl⟩ := Percent.isSome_pairValue?_iff.1 hv
    obtain ⟨front, back, hs, -, hback⟩ :=
      exists_of_flatMap_utf8EncodeChar_eq (c := '%') (by decide) he
    obtain ⟨x, back₁, rfl, hx, hback₁⟩ := exists_cons_of_flatMap_utf8EncodeChar_eq hh hback
    obtain ⟨y, back₂, rfl, hy, -⟩ := exists_cons_of_flatMap_utf8EncodeChar_eq hl hback₁
    exact ⟨front, x, y, back₂, hs, hx, hy⟩
  · rintro ⟨before, x, y, after, hs, hx, hy⟩
    have hbyte : ∀ {c : Char}, (Hex.value? c.toNat).isSome = true →
        (Hex.value? (UInt8.ofNat c.toNat).toNat).isSome = true := by
      intro c hc
      have hlt := Hex.lt_of_isSome_value? hc
      rwa [Utf8.toNat_ofNat_of_lt (by omega)]
    refine ⟨before.flatMap String.utf8EncodeChar, _, ?_, _, _,
      after.flatMap String.utf8EncodeChar, rfl,
      Percent.isSome_pairValue?_iff.2 ⟨hbyte hx, hbyte hy⟩⟩
    rw [utf8, hs, List.flatMap_append, List.flatMap_cons, List.flatMap_cons, List.flatMap_cons,
      UrlCoding.utf8EncodeChar_of_lt (Hex.lt_of_isSome_value? hx),
      UrlCoding.utf8EncodeChar_of_lt (Hex.lt_of_isSome_value? hy)]
    rfl

namespace Query

/-- The bytes that a byte of a query is written in, the sign for a space read. -/
def writtenByte (x : UInt8) : Bytes :=
  ((UrlCoding.encodeBytes UrlCoding.specialQuery [x]).flatMap String.utf8EncodeChar).map unplus

theorem writes_writtenByte_append {w b : Bytes} (h : Percent.Writes w b) (x : UInt8) :
    Percent.Writes (writtenByte x ++ w) (unplus x :: b) := by
  have key : ∀ n < 256, writtenByte (UInt8.ofNat n) = [unplus (UInt8.ofNat n)] ∨
      unplus (UInt8.ofNat n) = UInt8.ofNat n ∧ UInt8.ofNat n ≠ 37 ∧
        Hex.value? (UInt8.ofNat n).toNat = none ∧ writtenByte (UInt8.ofNat n)
          = [37, Hex.upperByte ((UInt8.ofNat n).toNat / 16),
            Hex.upperByte ((UInt8.ofNat n).toNat % 16)] := by decide +kernel
  have hx := key x.toNat x.toNat_lt
  rw [UInt8.ofNat_toNat] at hx
  rcases hx with hx | ⟨hsame, hne, hdigit, hx⟩
  · rw [hx]
    exact .plain _ h
  · rw [hx, hsame]
    exact .code hne hdigit h

/-- What a query codes is written in one of the two ways. -/
theorem writes_encode (cs : List Char) :
    Percent.Writes ((utf8 (String.ofList (UrlCoding.encode UrlCoding.specialQuery cs))).map unplus)
      ((utf8 (String.ofList cs)).map unplus) := by
  have hbytes : (utf8 (String.ofList (UrlCoding.encode UrlCoding.specialQuery cs))).map unplus
      = (utf8 (String.ofList cs)).flatMap fun x => writtenByte x := by
    simp [utf8, UrlCoding.encode, UrlCoding.encodeBytes, writtenByte, List.flatMap_assoc,
      List.map_flatMap]
  rw [hbytes]
  induction utf8 (String.ofList cs) with
  | nil => exact .nil
  | cons x b ih => exact writes_writtenByte_append ih x

theorem decodeText_eq (b : Bytes) :
    decodeText b = Utf8.lossy (Percent.decode (b.map unplus)) :=
  congrArg Utf8.lossy (UrlCoding.decode_eq _)

/-- **What a query codes is read as if it had not been coded.** -/
theorem decodeText_encode_specialQuery (cs : List Char) :
    decodeText (utf8 (String.ofList (UrlCoding.encode UrlCoding.specialQuery cs)))
      = decodeText (utf8 (String.ofList cs)) := by
  rw [decodeText_eq, decodeText_eq, (writes_encode cs).decode_eq]

/-! ### Texts that are read as they are -/

theorem asciiBytes_map_unplus (b : Bytes) : asciiBytes (b.map unplus) = asciiBytes b := by
  have key : ∀ n < 256, decide (unplus (UInt8.ofNat n) < 0x80) = decide (UInt8.ofNat n < 0x80) := by
    decide +kernel
  rw [asciiBytes, List.countP_map]
  refine List.countP_congr fun x _ => ?_
  have hx := key x.toNat x.toNat_lt
  rw [UInt8.ofNat_toNat] at hx
  simp [hx]

/-- **Reading adds no characters of ASCII.** -/
theorem asciiChars_decodeText_le (s : String) :
    asciiChars (decodeText (utf8 s)).toList ≤ asciiChars s.toList := by
  have hle :
      asciiBytes (Percent.decode ((utf8 s).map unplus)) ≤ asciiBytes ((utf8 s).map unplus) := by
    rcases Percent.decode_eq_or_lt ((utf8 s).map unplus) with ⟨-, hsame⟩ | ⟨-, hlt⟩
    · rw [hsame]
    · exact hlt.le
  calc asciiChars (decodeText (utf8 s)).toList
      ≤ asciiBytes (Percent.decode ((utf8 s).map unplus)) := by
        rw [decodeText_eq]
        exact asciiChars_lossy_le _
    _ ≤ asciiBytes ((utf8 s).map unplus) := hle
    _ = asciiChars s.toList := by rw [asciiBytes_map_unplus, asciiBytes_utf8]

/-- A sign for a space and the space. -/
def spaced (c : Char) : Char := if c = '+' then ' ' else c

theorem map_unplus_utf8 (s : String) :
    (utf8 s).map unplus = utf8 (String.ofList (s.toList.map spaced)) := by
  have hone : ∀ c, (String.utf8EncodeChar c).map unplus = String.utf8EncodeChar (spaced c) := by
    intro c
    by_cases hc : c = '+'
    · subst hc
      decide
    · rw [spaced, if_neg hc]
      conv_rhs => rw [← List.map_id (String.utf8EncodeChar c)]
      refine List.map_congr_left fun b hb => if_neg ?_
      rintro rfl
      exact hc (UrlCoding.eq_ofNat_of_mem_utf8EncodeChar (by decide) hb)
  simp [utf8, List.map_flatMap, List.flatMap_map, hone]

/-- **Which texts are read as they are.** -/
theorem decodeText_utf8_eq_self_iff {s : String} :
    decodeText (utf8 s) = s ↔ '+' ∉ s.toList ∧ ¬HasCodeText s.toList := by
  rw [← hasCode_utf8_iff]
  have hspaced := map_unplus_utf8 s
  constructor
  · intro h
    have hdecode : Percent.decode ((utf8 s).map unplus) = (utf8 s).map unplus ∧
        ¬Percent.HasCode ((utf8 s).map unplus) := by
      rcases Percent.decode_eq_or_lt ((utf8 s).map unplus) with ⟨hcode, hsame⟩ | ⟨-, hlt⟩
      · exact ⟨hsame, hcode⟩
      · have hle := asciiChars_lossy_le (Percent.decode ((utf8 s).map unplus))
        rw [← decodeText_eq, h, ← asciiBytes_utf8, ← asciiBytes_map_unplus] at hle
        exact absurd hlt (Nat.not_lt.2 hle)
    rw [decodeText_eq, hdecode.1, hspaced, Utf8.lossy_utf8] at h
    rw [hspaced, h] at hdecode
    refine ⟨fun hplus => ?_, hdecode.2⟩
    rw [← h, String.toList_ofList, List.mem_map] at hplus
    obtain ⟨c, -, hc⟩ := hplus
    unfold spaced at hc
    split at hc
    · cases hc
    · contradiction
  · rintro ⟨hplus, hcode⟩
    have hsame : s.toList.map spaced = s.toList := by
      conv_rhs => rw [← List.map_id s.toList]
      refine List.map_congr_left fun c hc => if_neg ?_
      rintro rfl
      exact hplus hc
    rw [hsame, String.ofList_toList] at hspaced
    rw [decodeText_eq, hspaced]
    rcases Percent.decode_eq_or_lt (utf8 s) with ⟨-, hdecode⟩ | ⟨hcode', -⟩
    · rw [hdecode, Utf8.lossy_utf8]
    · exact absurd hcode' hcode

end Query

end Courier
