import Courier.Proofs.Text.Separated
import Courier.Proofs.Url.Numeric
import Courier.Text.Quoted

/-!
# Shown values are told apart

A diagnostic puts shown values one behind the other, with names and punctuation between them. A
value may be any text, also one that holds quotes, or that looks like the field behind it. Still
it cannot be mistaken: **where a quoted text ends is seen whatever follows it**
(`Courier.Quoted.endsByItself_text`), as a quote inside it stands behind a backslash.

The reason is that a character is read again as it is written inside quotes
(`Courier.Quoted.charRest?_char`). It does not matter for this which characters have a glyph of
their own: a character that is written as a code begins with a backslash, and a backslash never
stands for itself.

A record is then compared field by field. If each field is told apart from its counterpart, **two
records are shown alike exactly if all their fields are** (`Courier.Quoted.record_inj`).
-/

namespace Courier.Quoted

/-! ### Characters -/

/-- The character that is written at the front of a quoted text, and what follows it. A quote is
not a character there, but the end of the text. -/
def charRest? : List Char → Option (Char × List Char)
  | '\\' :: 'u' :: '\x7b' :: r =>
    let (digits, r) := r.span (· ≠ '\x7d')
    (Host.digits? 16 digits).map fun n => (Char.ofNat n, r.drop 1)
  | '\\' :: 'n' :: r => some ('\n', r)
  | '\\' :: 'r' :: r => some ('\r', r)
  | '\\' :: 't' :: r => some ('\t', r)
  | '\\' :: '0' :: r => some ('\x00', r)
  | '\\' :: c :: r => some (c, r)
  | '"' :: _ => none
  | c :: r => some (c, r)
  | [] => none

/-- The digits of a code end at its brace. -/
theorem span_toDigits (n : Nat) (r : List Char) :
    (Nat.toDigits 16 n ++ '\x7d' :: r).span (· ≠ '\x7d') = (Nat.toDigits 16 n, '\x7d' :: r) := by
  refine span_append (fun x hx => ?_) (fun x hx => ?_)
  · have hdigits : ∀ d < 16, decide (Nat.digitChar d ≠ '\x7d') = true := by decide
    obtain ⟨d, hd, rfl⟩ := Host.exists_of_mem_toDigits (by decide) hx
    exact hdigits d hd
  · obtain rfl : '\x7d' = x := by simpa using hx
    rfl

/-- **A character is read as it is written inside quotes**, whatever follows it. -/
theorem charRest?_char (c : Char) (r : List Char) : charRest? (char c ++ r) = some (c, r) := by
  unfold char
  split_ifs with hquote hback hn hr ht hzero hshown
  · subst hquote; rfl
  · subst hback; rfl
  · subst hn; rfl
  · subst hr; rfl
  · subst ht; rfl
  · subst hzero; rfl
  · simp [charRest?, hback]
  · have hvalue : Host.digits? 16 (Nat.toDigits 16 c.toNat) = some c.toNat :=
      Host.digits?_toDigits (by decide) (by decide) c.toNat
    simp only [List.append_assoc, List.cons_append, List.nil_append, charRest?,
      span_toDigits c.toNat r, hvalue, Option.map_some, List.drop_one, List.tail_cons,
      Char.ofNat_toNat]

/-- What is written inside quotes tells its characters, and it ends at the first bare quote. -/
theorem flatMap_char_inj {l m r r' : List Char}
    (h : l.flatMap char ++ '"' :: r = m.flatMap char ++ '"' :: r') : l = m := by
  have hread := congrArg charRest? h
  induction l generalizing m with
  | nil =>
    cases m with
    | nil => rfl
    | cons d m =>
      rw [List.flatMap_cons, List.append_assoc, charRest?_char] at hread
      cases hread
  | cons c l ih =>
    rw [List.flatMap_cons, List.append_assoc, charRest?_char] at hread
    cases m with
    | nil => cases hread
    | cons d m =>
      rw [List.flatMap_cons, List.append_assoc, charRest?_char] at hread
      obtain ⟨rfl, hrest⟩ := Prod.mk.inj (Option.some.inj hread)
      rw [ih hrest (congrArg charRest? hrest)]

/-! ### Values -/

/-- **What is shown ends by itself**: whatever follows it, the value can be told. -/
def EndsByItself {α : Type} (shown : α → String) : Prop :=
  ∀ ⦃a b : α⦄ ⦃r r' : String⦄, shown a ++ r = shown b ++ r' → a = b

/-- Two shown values are told apart wherever they stand: if they differ, so do any two texts that
begin with them. -/
def AreToldApart (v w : String) : Prop := ∀ ⦃r r' : String⦄, v ++ r = w ++ r' → v = w

theorem AreToldApart.refl (v : String) : AreToldApart v v := fun _ _ _ => rfl

section EndsByItself

variable {α : Type} {shown : α → String} (h : EndsByItself shown)
include h

theorem EndsByItself.areToldApart (a b : α) : AreToldApart (shown a) (shown b) :=
  fun _ _ heq => congrArg shown (h heq)

theorem EndsByItself.inj {a b : α} : shown a = shown b ↔ a = b :=
  ⟨fun heq => h (congrArg (· ++ "") heq), congrArg shown⟩

end EndsByItself

/-- **A quoted text ends by itself.** -/
theorem endsByItself_text : EndsByItself text := by
  intro s t r r' h
  have hchars : s.toList.flatMap char ++ '"' :: r.toList
      = t.toList.flatMap char ++ '"' :: r'.toList := by
    simpa [text] using congrArg String.toList h
  exact String.toList_inj.1 (flatMap_char_inj hchars)

/-! ### Records -/

/-- A field as it stands in a record. -/
def field (f : String × String) : String := f.1 ++ ": " ++ f.2

theorem record_eq (name : String) (fields : List (String × String)) : record name fields
    = name ++ (" \x7b " ++ (", ".intercalate (fields.map field) ++ " \x7d")) := by
  rw [record, String.append_assoc, String.append_assoc]
  rfl

/-- Fields of the same name, with values that are told apart. -/
def AreComparable (f g : String × String) : Prop := f.1 = g.1 ∧ AreToldApart f.2 g.2

/-- A field tells its value, and what follows it. -/
theorem AreComparable.append_inj {f g : String × String} (h : AreComparable f g) {r r' : String}
    (heq : field f ++ r = field g ++ r') : f = g ∧ r = r' := by
  obtain ⟨name, v⟩ := f
  obtain ⟨name', w⟩ := g
  obtain ⟨rfl : name = name', hvalue : AreToldApart v w⟩ := h
  simp only [field, String.append_assoc, String.append_right_inj] at heq
  obtain rfl := hvalue heq
  exact ⟨rfl, (String.append_right_inj v).1 heq⟩

/-- **Fields are told apart one after the other**, whatever follows the last of them. -/
theorem eq_of_intercalate_append {fs gs : List (String × String)}
    (h : List.Forall₂ AreComparable fs gs) {r r' : String}
    (heq : ", ".intercalate (fs.map field) ++ r = ", ".intercalate (gs.map field) ++ r') :
    fs = gs := by
  induction h with
  | nil => rfl
  | @cons f g fs gs hfield hfields ih =>
    cases hfields with
    | nil =>
      rw [List.map_singleton, List.map_singleton, String.intercalate_singleton,
        String.intercalate_singleton] at heq
      rw [(hfield.append_inj heq).1]
    | @cons f' g' fs gs hfield' hfields =>
      simp only [List.map_cons, String.intercalate_cons_cons, String.append_assoc] at heq ih
      obtain ⟨rfl, htail⟩ := hfield.append_inj heq
      rw [ih ((String.append_right_inj _).1 htail)]

/-- **Two records are shown alike exactly if all their fields are**, if these are told apart. -/
theorem record_inj {name : String} {fs gs : List (String × String)}
    (h : List.Forall₂ AreComparable fs gs) : record name fs = record name gs ↔ fs = gs := by
  refine ⟨fun heq => ?_, congrArg (record name)⟩
  simp only [record_eq, String.append_right_inj] at heq
  exact eq_of_intercalate_append h heq

end Courier.Quoted
