import Courier.Hosts.Ping
import Courier.Proofs.Text.Utf8
import Mathlib.Data.List.Infix

/-!
# The word in the answer to a ping

The answer to a ping is bytes, and the word `pong` is looked for in the text that is read of them,
with a character of its own for each ill-formed part. Nothing is lost by that, and nothing found
that was not there: **a word of ASCII occurs in the text exactly if its bytes occur in the bytes**
(`Courier.Utf8.isInfix_lossy_iff`).

The reason is how reading goes on (`Courier.Utf8.exists_scalars_append`). Either one byte of ASCII
is read, as its character, or a part of the bytes is read that holds no byte of ASCII, as a
character that is none of ASCII. Such a part swallows nothing of the word, and what is read of it
stands between the characters before it and those after it.
-/

namespace Courier

theorem occursIn_iff {word cs : List Char} : occursIn word cs = true ↔ word <:+: cs := by
  induction cs with
  | nil => simp [occursIn]
  | cons c cs ih =>
    rw [occursIn, Bool.or_eq_true, ih, List.isPrefixOf_iff_prefix, List.infix_cons_iff]

theorem containsText_iff {s word : String} :
    containsText s word = true ↔ word.toList <:+: s.toList :=
  occursIn_iff

namespace Utf8

/-- Characters of ASCII only. -/
def IsAscii (cs : List Char) : Prop := ∀ c ∈ cs, c.toNat < 0x80

theorem isAscii_cons {c : Char} {cs : List Char} :
    IsAscii (c :: cs) ↔ c.toNat < 0x80 ∧ IsAscii cs :=
  List.forall_mem_cons

/-- The byte of a character of ASCII. -/
def byteOf (c : Char) : UInt8 := UInt8.ofNat c.toNat

theorem byteOf_lt {c : Char} (hc : c.toNat < 0x80) : byteOf c < 0x80 := by
  rw [UInt8.lt_iff_toNat_lt, byteOf, toNat_ofNat_of_lt (by omega)]
  exact hc

/-- A byte of ASCII is that of one character. -/
theorem eq_charOfNat_iff {c : Char} {b : UInt8} (hc : c.toNat < 0x80) (hb : b < 0x80) :
    c = Char.ofNat b.toNat ↔ byteOf c = b := by
  have hn : b.toNat < 0x80 := UInt8.lt_iff_toNat_lt.1 hb
  constructor
  · rintro rfl
    rw [byteOf, toNat_charOfNat (Or.inl (by omega)), UInt8.ofNat_toNat]
  · rintro rfl
    rw [byteOf, toNat_ofNat_of_lt (by omega), Char.ofNat_toNat]

/-- What is read of a part beyond ASCII is no character of ASCII. -/
theorem ne_getD_of_wide {c : Char} (hc : c.toNat < 0x80) {x : Option Char}
    (hx : ∀ c ∈ x, 0x80 ≤ c.toNat) : c ≠ x.getD '\uFFFD' := by
  rintro rfl
  cases x with
  | none => exact absurd hc (by decide)
  | some d => exact absurd hc (Nat.not_lt.2 (hx d rfl))

/-- **A word of ASCII begins a text exactly if its bytes begin the bytes.** -/
theorem isPrefix_lossy_iff {word : List Char} (hword : IsAscii word) (b : Bytes) :
    word <+: (lossy b).toList ↔ word.map byteOf <+: b := by
  rw [toList_lossy]
  induction word generalizing b with
  | nil => simp
  | cons c word ih =>
    rw [isAscii_cons] at hword
    by_cases hb : b = []
    · simp [hb, scalars]
    obtain ⟨part, x, rest, rfl, hread, ⟨b₀, rfl, h₀, rfl⟩ | ⟨hpart, hwide, hx⟩⟩ :=
      exists_scalars_append hb
    · rw [hread, List.map_cons, List.map_cons, List.singleton_append, List.cons_prefix_cons,
        List.cons_prefix_cons, ih hword.2, Option.getD_some, eq_charOfNat_iff hword.1 h₀]
    · obtain ⟨y, part, rfl⟩ := List.exists_cons_of_ne_nil hpart
      have hy : byteOf c ≠ y := fun h => (areWide_cons.1 hwide).1 (h ▸ byteOf_lt hword.1)
      rw [hread, List.map_cons, List.map_cons, List.cons_append, List.cons_prefix_cons,
        List.cons_prefix_cons, eq_false hy, eq_false (ne_getD_of_wide hword.1 hx), false_and,
        false_and]

/-- A word of ASCII does not begin in a part without bytes of ASCII. -/
theorem isInfix_append_of_areWide {c : Char} (hc : c.toNat < 0x80) (word : Bytes) {part : Bytes}
    (hpart : AreWide part) (rest : Bytes) :
    byteOf c :: word <:+: part ++ rest ↔ byteOf c :: word <:+: rest := by
  induction part with
  | nil => rfl
  | cons y part ih =>
    rw [areWide_cons] at hpart
    have hy : byteOf c ≠ y := fun h => hpart.1 (h ▸ byteOf_lt hc)
    rw [List.cons_append, List.infix_cons_iff, List.cons_prefix_cons, eq_false hy, false_and,
      false_or, ih hpart.2]

/-- **A word of ASCII occurs in a text exactly if its bytes occur in the bytes**, whatever is
ill-formed around it. -/
theorem isInfix_lossy_iff {word : List Char} (hword : IsAscii word) (b : Bytes) :
    word <:+: (lossy b).toList ↔ word.map byteOf <:+: b := by
  cases word with
  | nil => simp
  | cons c word =>
    have hc := (isAscii_cons.1 hword).1
    induction b using scalars_induction with
    | nil => simp [toList_lossy, scalars]
    | ascii b₀ rest hread h₀ ih =>
      have hprefix := isPrefix_lossy_iff hword (b₀ :: rest)
      rw [toList_lossy] at ih hprefix ⊢
      rw [hread, List.map_cons] at hprefix ⊢
      rw [List.infix_cons_iff, List.infix_cons_iff]
      exact or_congr hprefix ih
    | other part x rest hread hwide hx ih =>
      rw [toList_lossy] at ih ⊢
      rw [hread, List.map_cons, List.infix_cons_iff, List.cons_prefix_cons,
        eq_false (ne_getD_of_wide hc hx), false_and, false_or, List.map_cons,
        isInfix_append_of_areWide hc _ hwide]
      exact ih

end Utf8

/-- The bytes of the word. -/
def pongBytes : Bytes := [0x70, 0x6F, 0x6E, 0x67]

/-- **Whose answer is that of a healthy host**: one with status 200, of one to nineteen bytes, in
which the four bytes of the word stand one after the other. To look for the word in the text that is
read of an answer is to look for these bytes in it, of whatever length it is. -/
theorem isPong_iff_and_containsText_iff (status : Nat) (body : Bytes) :
    (isPong status body = true ↔
        status = 200 ∧ 1 ≤ body.length ∧ body.length ≤ 19 ∧ pongBytes <:+: body) ∧
      (containsText (Utf8.lossy body) "pong" = true ↔ pongBytes <:+: body) := by
  have hword : Utf8.IsAscii "pong".toList := by
    have hall : ("pong".toList.all fun c => decide (c.toNat < 0x80)) = true := by decide
    exact fun c hc => of_decide_eq_true (List.all_eq_true.1 hall c hc)
  have hsearch : containsText (Utf8.lossy body) "pong" = true ↔ pongBytes <:+: body :=
    containsText_iff.trans (Utf8.isInfix_lossy_iff hword body)
  refine ⟨?_, hsearch⟩
  have hlength : body.isEmpty = false ↔ 1 ≤ body.length := by
    cases body <;> simp
  simp only [isPong, Bool.and_eq_true, hsearch, beq_iff_eq, Bool.not_eq_true', hlength,
    decide_eq_true_eq, pongBound, and_assoc, Nat.lt_succ_iff]

/-- The word between a truncated sequence and a byte that begins none. -/
example : isPong 200 [0xE2, 0x82, 0x70, 0x6F, 0x6E, 0x67, 0xFF] = true := by decide

end Courier
