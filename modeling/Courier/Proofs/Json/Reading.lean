import Courier.Json.Printer
import Courier.Json.Reader
import Courier.Proofs.Text.Utf8
import Courier.Settings.Field

/-!
# Reading what was printed

A value without white space is read again as it was printed: strings with whatever characters
(`Courier.Json.isRead_string`), lists of texts (`Courier.Json.isRead_texts`), and the members of
an object if their values are (`Courier.Json.readMembers?_compact`).

The printer goes through the parts of a value, the reader through its characters, and the two
meet at each part: what was printed of a part is taken off the front of the text, **whatever
follows it** (`Courier.Json.IsRead`). That it is enough fuel to have one step for each character
is said in the same place.
-/

namespace Courier

namespace Json

/-! ### Strings -/

theorem charText_ne_nil (c : Char) : charText c ≠ [] := by
  unfold charText
  split_ifs <;> simp

/-- **A character is read as it is printed.** -/
theorem stringRest?_charText (c : Char) (fuel : Nat) (acc r : List Char) :
    stringRest? (fuel + 1) acc (charText c ++ r) = stringRest? fuel (c :: acc) r := by
  unfold charText
  split_ifs with hquote hback hb hf hn hr ht hcontrol
  · subst hquote; rfl
  · subst hback; rfl
  · subst hb; rfl
  · subst hf; rfl
  · subst hn; rfl
  · subst hr; rfl
  · subst ht; rfl
  · have hhigh := (Hex.value?_digit (c.toNat / 16) (by omega)).1
    have hlow := (Hex.value?_digit (c.toNat % 16) (by omega)).1
    have hzero : Hex.value? '0'.toNat = some 0 := by decide
    have hcode : ((0 * 16 + 0) * 16 + c.toNat / 16) * 16 + c.toNat % 16 = c.toNat := by omega
    have hunicode : unicode? ('0' :: '0' :: Hex.lower (c.toNat / 16)
        :: Hex.lower (c.toNat % 16) :: r) = some (c, r) := by
      simp only [unicode?, hex4?, hzero, hhigh, hlow, Option.bind_eq_bind, Option.bind_some, hcode]
      rw [if_neg (by omega), if_neg (by omega), Char.ofNat_toNat]
    simp [stringRest?, hunicode]
  · simp [stringRest?, hquote, hback, hcontrol]

/-- The rest of a string is read up to its closing quote, as a quote among its characters is
printed behind a backslash. -/
theorem stringRest?_flatMap (l acc r : List Char) {fuel : Nat}
    (hfuel : (l.flatMap charText).length < fuel) :
    stringRest? fuel acc (l.flatMap charText ++ '"' :: r)
      = some (String.ofList (acc.reverse ++ l), r) := by
  induction l generalizing acc fuel with
  | nil =>
    obtain ⟨fuel, rfl⟩ := Nat.exists_eq_add_one.2 hfuel
    simp [stringRest?]
  | cons c l ih =>
    have hpos := List.length_pos_iff.2 (charText_ne_nil c)
    rw [List.flatMap_cons, List.length_append] at hfuel
    obtain ⟨fuel, rfl⟩ := Nat.exists_eq_add_one.2 (Nat.zero_lt_of_lt hfuel)
    rw [List.flatMap_cons, List.append_assoc, stringRest?_charText, ih _ (by omega)]
    simp

/-! ### Values -/

theorem skip_cons {c : Char} (h : isSpace c = false) (r : List Char) : skip (c :: r) = c :: r := by
  rw [skip, List.dropWhile_cons_of_neg (by simp [h])]

/-- **What is printed of a value is read as the value**, whatever follows it, with `depth` arrays
and objects still to be opened. -/
def IsRead (depth : Nat) (j : Json) : Prop :=
  ∀ (fuel : Nat) (r : List Char), (compactChars j).length < fuel →
    value? fuel depth (compactChars j ++ r) = some (j, r)

/-- With a step for each character there is enough fuel. -/
theorem stringRest?_stringText (s : String) (r : List Char) :
    stringRest? ((s.toList.flatMap charText ++ '"' :: r).length + 1) []
      (s.toList.flatMap charText ++ '"' :: r) = some (s, r) := by
  rw [stringRest?_flatMap _ _ _ (by rw [List.length_append]; omega)]
  simp

/-- **A string is read as it is printed**, whatever its characters are. -/
theorem isRead_string (depth : Nat) (s : String) : IsRead depth (.string s) := by
  intro fuel r hfuel
  obtain ⟨fuel, rfl⟩ := Nat.exists_eq_add_one.2 (Nat.zero_lt_of_lt hfuel)
  have hchars : compactChars (.string s) ++ r = '"' :: (s.toList.flatMap charText ++ '"' :: r) := by
    simp [compactChars, stringText]
  rw [hchars, value?, skip_cons rfl]
  simp only [stringRest?_stringText, Option.map_some]

theorem compactItems_eq (items : List Json) : compactItems items = items.map compactChars := by
  induction items with
  | nil => rfl
  | cons j items ih => rw [compactItems, ih, List.map_cons]

theorem compactMembers_eq (members : List (String × Json)) : compactMembers members
    = members.map fun m => stringText m.1 ++ ':' :: compactChars m.2 := by
  induction members with
  | nil => rfl
  | cons m members ih => rw [compactMembers, ih, List.map_cons]

theorem joined_cons (sep p : List Char) {l : List (List Char)} (h : l ≠ []) :
    joined sep (p :: l) = p ++ sep ++ joined sep l := by
  cases l with
  | nil => exact absurd rfl h
  | cons q l => rfl

/-! ### Arrays and objects -/

section Depth

variable {depth : Nat}

/-- An item is read as the first of those that follow. -/
theorem items?_item {j : Json} (hj : IsRead depth j) {fuel : Nat}
    (hfuel : (compactChars j).length < fuel) (acc : List Json) (r : List Char) :
    items? (fuel + 1) depth acc (compactChars j ++ r) =
      match skip r with
      | ',' :: r => items? fuel depth (j :: acc) r
      | ']' :: r => some (.array (j :: acc).reverse, r)
      | _ => none := by
  rw [items?, hj fuel r hfuel]
  rfl

/-- **Items are read as they are printed**, up to the bracket that closes the array. -/
theorem items?_joined {items : List Json} (hne : items ≠ [])
    (hitems : ∀ j ∈ items, IsRead depth j) (acc : List Json) (r : List Char) {fuel : Nat}
    (hfuel : (joined [','] (compactItems items)).length + 1 < fuel) :
    items? fuel depth acc (joined [','] (compactItems items) ++ ']' :: r)
      = some (.array (acc.reverse ++ items), r) := by
  induction items generalizing acc fuel with
  | nil => exact absurd rfl hne
  | cons j items ih =>
    obtain ⟨fuel, rfl⟩ := Nat.exists_eq_add_one.2 (Nat.zero_lt_of_lt hfuel)
    rw [List.forall_mem_cons] at hitems
    rw [compactItems] at hfuel ⊢
    by_cases hlast : items = []
    · subst hlast
      simp only [compactItems, joined] at hfuel ⊢
      rw [items?_item hitems.1 (by omega), skip_cons rfl]
      simp
    · have hrest : compactItems items ≠ [] := by simpa [compactItems_eq] using hlast
      rw [joined_cons _ _ hrest] at hfuel ⊢
      simp only [List.length_append, List.length_singleton] at hfuel
      have hfuel' : (joined [','] (compactItems items)).length + 1 < fuel := by omega
      rw [List.append_assoc, List.append_assoc, items?_item hitems.1 (by omega),
        List.singleton_append, skip_cons rfl]
      simp only [ih hlast hitems.2 (j :: acc) hfuel']
      simp

/-- A member is read as the first of those that follow. -/
theorem members?_member (name : String) {j : Json} (hj : IsRead depth j) {fuel : Nat}
    (hfuel : (compactChars j).length < fuel) (acc : List (String × Json)) (r : List Char) :
    members? (fuel + 1) depth acc (stringText name ++ ':' :: compactChars j ++ r) =
      match skip r with
      | ',' :: r => members? fuel depth ((name, j) :: acc) r
      | '\x7d' :: r => some (((name, j) :: acc).reverse, r)
      | _ => none := by
  have hchars : stringText name ++ ':' :: compactChars j ++ r
      = '"' :: (name.toList.flatMap charText ++ '"' :: ':' :: (compactChars j ++ r)) := by
    simp [stringText]
  rw [hchars, members?, skip_cons rfl]
  simp only [stringRest?_stringText, Option.bind_eq_bind, Option.bind_some]
  rw [skip_cons rfl]
  change (value? fuel depth (compactChars j ++ r)).bind _ = _
  rw [hj fuel r hfuel]
  rfl

/-- **Members are read as they are printed**, up to the brace that closes the object. -/
theorem members?_joined {members : List (String × Json)} (hne : members ≠ [])
    (hmembers : ∀ m ∈ members, IsRead depth m.2) (acc : List (String × Json)) (r : List Char)
    {fuel : Nat} (hfuel : (joined [','] (compactMembers members)).length < fuel) :
    members? fuel depth acc (joined [','] (compactMembers members) ++ '\x7d' :: r)
      = some (acc.reverse ++ members, r) := by
  induction members generalizing acc fuel with
  | nil => exact absurd rfl hne
  | cons m members ih =>
    obtain ⟨fuel, rfl⟩ := Nat.exists_eq_add_one.2 (Nat.zero_lt_of_lt hfuel)
    rw [List.forall_mem_cons] at hmembers
    rw [compactMembers] at hfuel ⊢
    by_cases hlast : members = []
    · subst hlast
      simp only [compactMembers, joined, List.length_append, List.length_cons] at hfuel ⊢
      rw [members?_member m.1 hmembers.1 (by omega), skip_cons rfl]
      simp
    · have hrest : compactMembers members ≠ [] := by simpa [compactMembers_eq] using hlast
      rw [joined_cons _ _ hrest] at hfuel ⊢
      simp only [List.length_append, List.length_cons] at hfuel
      have hfuel' : (joined [','] (compactMembers members)).length < fuel := by omega
      rw [List.append_assoc, List.append_assoc, members?_member m.1 hmembers.1 (by omega),
        List.singleton_append, skip_cons rfl]
      simp only [ih hlast hmembers.2 (m :: acc) hfuel']
      simp

/-- A list of texts is read as it is printed. -/
theorem isRead_texts (l : List String) : IsRead (depth + 1) (.array (l.map .string)) := by
  intro fuel r hfuel
  obtain ⟨fuel, rfl⟩ := Nat.exists_eq_add_one.2 (Nat.zero_lt_of_lt hfuel)
  have hitems : ∀ j ∈ l.map Json.string, IsRead depth j := by
    rw [List.forall_mem_map]
    exact fun s _ => isRead_string depth s
  cases l with
  | nil => rfl
  | cons s l =>
    rw [compactChars, List.length_append, List.length_cons, List.length_singleton] at hfuel
    have hne : (s :: l).map Json.string ≠ [] := List.cons_ne_nil _ _
    have hfuel' : (joined [','] (compactItems ((s :: l).map Json.string))).length + 1 < fuel := by
      omega
    have hread := items?_joined hne hitems [] r hfuel'
    -- the first item is a string, so the array is not closed at once
    have hchars : ∃ cs, joined [','] (compactItems ((s :: l).map Json.string)) ++ ']' :: r
        = '"' :: cs := by
      cases l <;> exact ⟨_, rfl⟩
    obtain ⟨cs, hchars⟩ := hchars
    rw [hchars] at hread
    rw [compactChars, List.append_assoc, List.cons_append, List.singleton_append, hchars, value?,
      skip_cons rfl]
    simp only [skip_cons (c := '"') rfl]
    exact hread

end Depth

/-- **The members of an object are read as they are printed**, if their values are. -/
theorem readMembers?_compact {members : List (String × Json)} (hne : members ≠ [])
    (hmembers : ∀ m ∈ members, IsRead (maxDepth - 1) m.2) :
    readMembers? (utf8 (compact (.object members))) = some members := by
  obtain ⟨m, rest, rfl⟩ := List.exists_cons_of_ne_nil hne
  have hfuel : (joined [','] (compactMembers (m :: rest))).length
      < 2 * (joined [','] (compactMembers (m :: rest)) ++ ['\x7d']).length + 1 := by
    rw [List.length_append]
    omega
  have hread := members?_joined hne hmembers [] [] hfuel
  -- the first member begins with its name, so the object is not closed at once
  have hchars : ∃ cs, joined [','] (compactMembers (m :: rest)) ++ ['\x7d'] = '"' :: cs := by
    cases rest <;> exact ⟨_, rfl⟩
  obtain ⟨cs, hchars⟩ := hchars
  rw [hchars] at hread
  rw [readMembers?, Utf8.decode?_utf8, Option.bind_eq_bind, Option.bind_some, compact,
    String.toList_ofList, compactChars, readCharMembers?, List.cons_append, hchars, skip_cons rfl]
  simp only [skip_cons (c := '"') rfl]
  change (members? (2 * ('"' :: cs).length + 1) (maxDepth - 1) [] ('"' :: cs)).bind _ = _
  rw [hread]
  rfl

/-- A list of texts is found in the array of its strings. -/
theorem texts?_texts (l : List String) : texts? (.array (l.map .string)) = some l := by
  rw [texts?, List.mapM_map]
  exact Utf8.mapM_some l

end Json

end Courier
