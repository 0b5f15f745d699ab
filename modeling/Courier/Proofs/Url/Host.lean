import Courier.Proofs.Url.Coding
import Courier.Proofs.Url.Numeric

/-!
# Reading a host again

A host is written in one way only, and this way is read as the same host
(`Courier.Host.IsWritten.ofText?_text`). For a name this is so because the reader has done to it all that
it does: what is read is decoded, in lower case and without the characters that a name may not
hold (`Courier.Host.IsName`), so that reading it again changes nothing
(`Courier.Host.ofText?_of_isPlain`).

Of the written form, the rest of an address needs to know little: it is not empty, its
characters do not begin another part (`Courier.Host.IsBracketed.isHostChar`), and its colons
stand in brackets (`Courier.Host.IsWritten.isBracketed`).
-/

namespace Courier

namespace Host

/-! ### Names -/

/-- A text in which there is nothing to decode and no letter in upper case, and no character
that a name may not hold. -/
def IsPlain (cs : List Char) : Prop :=
  ∀ c ∈ cs, c.toNat < 0x80 ∧ isForbidden c = false ∧ c.toLower = c

/-- What the name of a host is, after it was read. -/
structure IsName (cs : List Char) : Prop where
  plain : IsPlain cs
  areValid : Label.areValid (cs.splitOn '.') = true
  ne_nil : cs ≠ []
  notNumber : endsInNumber cs = false

/-- What a host is, after it was read. -/
def IsWritten : Host → Prop
  | .name s => IsName s.toList
  | .ipv4 a => a < 2 ^ 32
  | .ipv6 ps => IsIpv6 ps

/-- A letter in lower case has no other lower case. -/
theorem toLower_toLower (c : Char) : c.toLower.toLower = c.toLower := by
  by_cases h : c.toNat < 128
  · have key : ∀ n < 128, (Char.ofNat n).toLower.toLower = (Char.ofNat n).toLower := by decide
    have hc := key c.toNat h
    rwa [Char.ofNat_toNat] at hc
  · have hc : c.toLower = c := by
      refine dif_neg fun hupper => h ?_
      have hle : c.toNat ≤ 90 := hupper.2
      omega
    rw [hc, hc]

theorem IsPlain.notMem {cs : List Char} (h : IsPlain cs) {c : Char} (hc : isForbidden c = true) :
    c ∉ cs := by
  intro hmem
  rw [(h c hmem).2.1] at hc
  cases hc

/-- There is nothing to decode in a plain text. -/
theorem IsPlain.decode? {cs : List Char} (h : IsPlain cs) :
    Utf8.decode? (UrlCoding.decode (utf8 (String.ofList cs))) = some (String.ofList cs) := by
  have hpercent : 37 ∉ utf8 (String.ofList cs) := by
    rw [UrlCoding.utf8_ofList_of_lt fun c hc => (h c hc).1]
    intro hmem
    obtain ⟨c, hc, he⟩ := List.mem_map.1 hmem
    have hn : c.toNat = 37 := by
      have hlt := (h c hc).1
      rw [← Utf8.toNat_ofNat_of_lt (show c.toNat < 256 by omega), he]
      rfl
    obtain rfl : c = '%' := Char.toNat_inj.1 hn
    exact h.notMem (by decide) hc
  have hread : (cs.map some).mapM id = some cs := mapM_map_of_forall fun _ _ => rfl
  rw [UrlCoding.decode_of_notMem hpercent, Utf8.decode?, Utf8.scalars_utf8, String.toList_ofList,
    hread]
  rfl

/-- **What reading does to a plain text**: it only looks at its labels. -/
theorem ofText?_of_isPlain {cs : List Char} (h : IsPlain cs) :
    ofText? cs =
      if !Label.areValid (cs.splitOn '.') then .error .invalidName
      else if cs.isEmpty then .error .emptyHost
      else if endsInNumber cs then
        match ipv4? cs with
        | some a => .ok (.ipv4 a)
        | none => .error .invalidIpv4
      else .ok (.name (String.ofList cs)) := by
  have hbracket : bracketed? cs = none := by
    unfold bracketed?
    split
    · exact absurd List.mem_cons_self (h.notMem (by decide))
    · rfl
  have hlower : cs.map Char.toLower = cs := by
    conv_rhs => rw [← List.map_id cs]
    exact List.map_congr_left fun c hc => (h c hc).2.2
  have hany : (cs.any fun c => isForbidden c || 0x7F < c.toNat) = false := by
    rw [List.any_eq_false]
    intro c hc
    obtain ⟨hlt, hforbidden, -⟩ := h c hc
    simp only [hforbidden, Bool.false_or, decide_eq_true_eq]
    omega
  cases hnumeric : ipv4? cs <;>
    simp only [ofText?, hbracket, h.decode?, String.toList_ofList, hlower, hany, hnumeric,
      Bool.false_eq_true, if_false]

/-! ### IPv4 addresses as names -/

theorem mem_ipv4Text {a : Nat} {c : Char} (hc : c ∈ ipv4Text a) :
    c = '.' ∨ ∃ d < 10, c = Nat.digitChar d := by
  have hdigit (n : Nat) (h : c ∈ decimal n) : ∃ d < 10, c = Nat.digitChar d :=
    exists_of_mem_toDigits (by decide) h
  simp only [ipv4Text, List.mem_append, List.mem_cons] at hc
  rcases hc with ((h | h | h) | h | h) | h | h
  all_goals first
    | exact Or.inl h
    | exact Or.inr (hdigit _ h)

/-- Digits and dots are plain. -/
theorem isPlain_ipv4Text (a : Nat) : IsPlain (ipv4Text a) := by
  have key : ∀ d < 10, (Nat.digitChar d).toNat < 0x80 ∧ isForbidden (Nat.digitChar d) = false
      ∧ (Nat.digitChar d).toLower = Nat.digitChar d := by decide
  intro c hc
  rcases mem_ipv4Text hc with rfl | ⟨d, hd, rfl⟩
  · decide
  · exact key d hd

/-- A number is a label as it is. -/
theorem read?_decimal (n : Nat) : Label.read? (decimal n) = some (decimal n) := by
  unfold Label.read?
  split
  · rename_i code hcode
    have hx : 'x' ∈ decimal n := by simp [hcode]
    exact absurd (isDigit_of_mem_decimal hx) (by decide)
  · rfl

/-- The labels of a written address can stand in a name: nothing in them is written from right
to left. -/
theorem areValid_ipv4Text (a : Nat) : Label.areValid ((ipv4Text a).splitOn '.') = true := by
  have hread : (((bytes a).map decimal).map id).mapM Label.read?
      = some ((bytes a).map decimal) := by
    refine mapM_map_of_forall fun s hs => ?_
    obtain ⟨n, -, rfl⟩ := List.mem_map.1 hs
    exact read?_decimal n
  have hdirection : ∀ n, ((decimal n).map Direction.of).any Direction.isLeftward = false := by
    intro n
    have key : ∀ d < 10, (Direction.of (Nat.digitChar d)).isLeftward = false := by decide
    rw [List.any_map, List.any_eq_false]
    intro c hc
    obtain ⟨d, hd, rfl⟩ := exists_of_mem_toDigits (by decide) hc
    simp [key d hd]
  rw [List.map_id] at hread
  rw [splitOn_ipv4Text, Label.areValid, hread, Option.any_some, Label.areClear]
  simp [bytes, hdirection]

/-! ### Reading again -/

/-- **A host that was read and written is read again.** -/
theorem IsWritten.ofText?_text {h : Host} (hw : h.IsWritten) : ofText? h.text.toList = .ok h := by
  match h, hw with
  | .name s, hw =>
    have hname : IsName s.toList := hw
    rw [text, ofText?_of_isPlain hname.plain]
    simp [hname.areValid, hname.ne_nil, hname.notNumber]
  | .ipv4 a, hw =>
    have hne : ipv4Text a ≠ [] := by simp [ipv4Text]
    rw [text, String.toList_ofList, ofText?_of_isPlain (isPlain_ipv4Text a)]
    simp [areValid_ipv4Text, hne, endsInNumber_ipv4Text, ipv4?_ipv4Text hw]
  | .ipv6 ps, hw =>
    have hlast : (ipv6Text ps ++ [']']).getLast? = some ']' := List.getLast?_concat
    simp [text, ofText?, bracketed?, ofBrackets, ipv6?_ipv6Text hw, Except.bind]

/-- What stands in brackets is an address. -/
theorem isWritten_of_ofBrackets {inner : List Char} {h : Host} (hread : ofBrackets inner = .ok h) :
    h.IsWritten := by
  unfold ofBrackets at hread
  split at hread
  · rename_i ps hps
    obtain rfl := Except.ok.inj hread
    exact isIpv6_of_ipv6? hps
  · cases hread

/-- Letters in lower case that a name may hold are a plain text. -/
theorem isPlain_map_toLower {cs : List Char}
    (h : ¬ ((cs.map Char.toLower).any fun c => isForbidden c || 0x7F < c.toNat) = true) :
    IsPlain (cs.map Char.toLower) := by
  intro c hc
  rw [List.any_eq_true, not_exists] at h
  have hchar := h c
  simp only [not_and, hc, forall_const, Bool.or_eq_true, decide_eq_true_eq, not_or] at hchar
  obtain ⟨d, -, rfl⟩ := List.mem_map.1 hc
  exact ⟨by omega, by simpa using hchar.1, toLower_toLower d⟩

/-- **What is read is a host as it is written.** -/
theorem isWritten_of_ofText? {cs : List Char} {h : Host} (hread : ofText? cs = .ok h) :
    h.IsWritten := by
  unfold ofText? at hread
  split at hread
  · rename_i inner _
    cases inner with
    | error e => cases hread
    | ok inner => exact isWritten_of_ofBrackets hread
  · split at hread
    · cases hread
    rename_i s _
    dsimp only at hread
    split at hread
    · cases hread
    rename_i hany
    split at hread
    · cases hread
    rename_i hvalid
    split at hread
    · cases hread
    rename_i hne
    split at hread
    · split at hread
      · rename_i a ha
        obtain rfl := Except.ok.inj hread
        exact lt_of_ipv4? ha
      · cases hread
    · rename_i hnumber
      obtain rfl := Except.ok.inj hread
      have hname : IsName (s.toList.map Char.toLower) :=
        ⟨isPlain_map_toLower hany, by simpa using hvalid, by simpa using hne,
          by simpa using hnumber⟩
      simpa [IsWritten] using hname

/-! ### What else the written form is -/

/-- Whether a character can stand in a written host: it is visible and does not begin another
part of the address. -/
def isHostChar (c : Char) : Bool := 0x20 < c.toNat && !"/\\?#@".toList.contains c

theorem isHostChar_of_not_isForbidden {c : Char} (h : isForbidden c = false) :
    isHostChar c = true := by
  have key : "/\\?#@".toList.all isForbidden = true := by decide
  have hblank : 0x20 < c.toNat := by
    simp only [isForbidden, Bool.or_eq_false_iff, decide_eq_false_iff_not] at h
    omega
  rw [isHostChar, Bool.and_eq_true, decide_eq_true_eq, Bool.not_eq_true', ← Bool.not_eq_true]
  refine ⟨hblank, fun hc => ?_⟩
  rw [List.all_eq_true.1 key c (by simpa using hc)] at h
  cases h

/-- Colons stand in brackets only. -/
inductive IsBracketed : List Char → Prop
  | plain {cs : List Char} (h : ∀ c ∈ cs, isForbidden c = false) : IsBracketed cs
  | inside {cs : List Char} (h : ∀ c ∈ cs, isHostChar c = true ∧ c ≠ '[' ∧ c ≠ ']') :
    IsBracketed ('[' :: (cs ++ [']']))

theorem IsWritten.isBracketed {h : Host} (hw : h.IsWritten) : IsBracketed h.text.toList := by
  match h, hw with
  | .name s, hw => exact .plain fun c hc => (IsName.plain hw c hc).2.1
  | .ipv4 a, _ =>
    rw [text, String.toList_ofList]
    exact .plain fun c hc => (isPlain_ipv4Text a c hc).2.1
  | .ipv6 ps, _ =>
    rw [text, String.toList_ofList]
    refine .inside fun c hc => ?_
    have key : ∀ d < 16, isHostChar (Nat.digitChar d) = true ∧ Nat.digitChar d ≠ '['
        ∧ Nat.digitChar d ≠ ']' := by decide
    rcases mem_ipv6Text hc with rfl | ⟨d, hd, rfl⟩
    · decide
    · exact key d hd

theorem IsBracketed.isHostChar {cs : List Char} (h : IsBracketed cs) :
    ∀ c ∈ cs, Host.isHostChar c = true := by
  intro c hc
  cases h with
  | plain h => exact isHostChar_of_not_isForbidden (h c hc)
  | inside h =>
    rw [List.mem_cons, List.mem_append, List.mem_singleton] at hc
    rcases hc with rfl | hc | rfl
    · decide
    · exact (h c hc).1
    · decide

theorem IsWritten.text_ne_empty {h : Host} (hw : h.IsWritten) : h.text.toList ≠ [] := by
  match h, hw with
  | .name s, hw => exact IsName.ne_nil hw
  | .ipv4 a, _ => simp [text, ipv4Text]
  | .ipv6 ps, _ => simp [text]

end Host

end Courier
