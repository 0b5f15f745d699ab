import Courier.Text.Utf8
import Mathlib.Tactic.SplitIfs

/-!
# Reading what was written

The reading of bytes undoes the writing of text (`Courier.Utf8.lossy_utf8`), so that two
texts with the same bytes are one (`Courier.Utf8.utf8_injective`). Bytes that no text wrote
may be read as well, and what is ill-formed in them reads as a character that was never
written. That character is never one of ASCII: such a character is read only where the byte
with its code stands (`Courier.Utf8.mem_of_mem_lossy`).

Both facts rest on the numbers that the bounds of a first byte admit
(`Courier.Utf8.Admitted`): what two bytes spell makes neither an overlong form nor a
surrogate, and the bytes that follow only add digits at its end.
-/

namespace Courier.Utf8

/-! ### What two bytes spell -/

/-- The numbers that a first and a second byte may spell, if the first announces `more`
bytes: whatever follows, they make no overlong form, no surrogate and no number above
U+10FFFF. -/
def Admitted (more n : Nat) : Prop :=
  (more = 1 ∧ 0x80 ≤ n ∧ n < 0x800)
    ∨ (more = 2 ∧ 0x20 ≤ n ∧ n < 0x400 ∧ ¬ (0x360 ≤ n ∧ n < 0x380))
    ∨ (more = 3 ∧ 0x10 ≤ n ∧ n < 0x110)

/-- **The bounds on the second byte** admit no other number. -/
theorem admitted_of_lead? {b₀ b₁ : UInt8} {l : Lead} (h : lead? b₀ = some l)
    (h₁ : l.low ≤ b₁ ∧ b₁ ≤ l.high) : Admitted l.more (extend l.bits b₁) := by
  obtain ⟨hlow, hhigh⟩ := h₁
  unfold lead? at h
  dsimp only at h
  rw [UInt8.le_iff_toNat_le] at hlow hhigh
  unfold Admitted extend
  split_ifs at h <;> obtain rfl := Option.some.inj h <;>
    simp only [UInt8.reduceToNat] at hlow hhigh <;> dsimp only <;> omega

/-- The mark of a first byte that announces `more` bytes. -/
def mark : Nat → Nat
  | 1 => 0xC0
  | 2 => 0xE0
  | _ => 0xF0

/-- A number below 256 is the value of its byte. -/
theorem toNat_ofNat_of_lt {n : Nat} (h : n < 256) : (UInt8.ofNat n).toNat = n :=
  UInt8.toNat_ofNat_of_lt h

/-- Six binary digits below the mark of a continuation byte. -/
theorem toNat_continuation {m : Nat} (hm : m < 64) :
    (UInt8.ofNat (m + 0x80)).toNat = m + 0x80 :=
  toNat_ofNat_of_lt (by omega)

/-- **Every number that is admitted is announced**, by the first byte that bears its leading
digits below the mark. -/
theorem exists_lead? {more n m : Nat} (hm : m < 64) (h : Admitted more (n * 64 + m)) :
    ∃ l, lead? (UInt8.ofNat (n + mark more)) = some l ∧ l.more = more ∧ l.bits = n
      ∧ l.low ≤ UInt8.ofNat (m + 0x80) ∧ UInt8.ofNat (m + 0x80) ≤ l.high := by
  simp only [UInt8.le_iff_toNat_le, toNat_continuation hm]
  unfold Admitted at h
  rcases h with ⟨rfl, hn⟩ | ⟨rfl, hn⟩ | ⟨rfl, hn⟩ <;> simp only [mark, lead?] <;>
    rw [toNat_ofNat_of_lt (by omega)] <;> split_ifs <;>
      first
        | omega
        | refine ⟨_, rfl, rfl, ?_, ?_, ?_⟩ <;> simp only [UInt8.reduceToNat] <;> omega

/-- A continuation byte adds six binary digits. -/
theorem extend_ofNat (bits : Nat) {m : Nat} (hm : m < 64) :
    extend bits (UInt8.ofNat (m + 0x80)) = bits * 64 + m := by
  have h := toNat_continuation hm
  unfold extend
  omega

theorem isContinuation_ofNat {m : Nat} (hm : m < 64) :
    isContinuation (UInt8.ofNat (m + 0x80)) = true := by
  simp only [isContinuation, Bool.and_eq_true, decide_eq_true_eq, UInt8.le_iff_toNat_le,
    toNat_continuation hm, UInt8.reduceToNat]
  omega

/-- What announces bytes is no byte of ASCII. -/
theorem not_lt_of_lead? {b : UInt8} {l : Lead} (h : lead? b = some l) : ¬ b < 0x80 := by
  unfold lead? at h
  dsimp only at h
  simp only [UInt8.lt_iff_toNat_lt, UInt8.reduceToNat]
  split_ifs at h <;> omega

/-! ### Reading a character that was written -/

section Announced

/-! How a sequence of two, three or four bytes is read, once its first byte is known. -/

variable {b₀ b₁ b₂ b₃ : UInt8} {l : Lead}

theorem scalars_two (hl : lead? b₀ = some l) (h₁ : l.low ≤ b₁ ∧ b₁ ≤ l.high) (hm : l.more = 1)
    (r : Bytes) :
    scalars (b₀ :: b₁ :: r) = some (Char.ofNat (extend l.bits b₁)) :: scalars r := by
  rw [scalars, if_neg (not_lt_of_lead? hl), hl]
  dsimp only
  rw [if_pos (by simpa using h₁), if_pos hm]

theorem scalars_three (hl : lead? b₀ = some l) (h₁ : l.low ≤ b₁ ∧ b₁ ≤ l.high) (hm : l.more = 2)
    (h₂ : isContinuation b₂ = true) (r : Bytes) :
    scalars (b₀ :: b₁ :: b₂ :: r)
      = some (Char.ofNat (extend (extend l.bits b₁) b₂)) :: scalars r := by
  rw [scalars, if_neg (not_lt_of_lead? hl), hl]
  dsimp only
  rw [if_pos (by simpa using h₁), if_neg (by omega), if_pos h₂, if_pos hm]

theorem scalars_four (hl : lead? b₀ = some l) (h₁ : l.low ≤ b₁ ∧ b₁ ≤ l.high) (hm : l.more = 3)
    (h₂ : isContinuation b₂ = true) (h₃ : isContinuation b₃ = true) (r : Bytes) :
    scalars (b₀ :: b₁ :: b₂ :: b₃ :: r)
      = some (Char.ofNat (extend (extend (extend l.bits b₁) b₂) b₃)) :: scalars r := by
  rw [scalars, if_neg (not_lt_of_lead? hl), hl]
  dsimp only
  rw [if_pos (by simpa using h₁), if_neg (by omega), if_pos h₂, if_neg (by omega), if_pos h₃]

end Announced

/-- **A character in front is read back**, whatever follows it. -/
theorem scalars_utf8EncodeChar_append (c : Char) (r : Bytes) :
    scalars (String.utf8EncodeChar c ++ r) = some c :: scalars r := by
  have hv : c.val.toNat < 0xD800 ∨ 0xDFFF < c.val.toNat ∧ c.val.toNat < 0x110000 := c.valid
  have hc : Char.ofNat c.val.toNat = c := Char.ofNat_toNat c
  unfold String.utf8EncodeChar
  generalize c.val.toNat = v at hv hc
  have digit : ∀ n, n % 64 < 64 := fun n => Nat.mod_lt n (by decide)
  dsimp only
  -- a character is written in one to four bytes, by the size of its code
  split_ifs with h₁ h₂ h₃
  · have hb : (UInt8.ofNat v).toNat = v := toNat_ofNat_of_lt (by omega)
    have hlt : UInt8.ofNat v < 0x80 := by
      simp only [UInt8.lt_iff_toNat_lt, hb, UInt8.reduceToNat]
      omega
    rw [List.cons_append, List.nil_append, scalars, if_pos hlt, hb, hc]
  · have ha : Admitted 1 (v / 64 % 32 * 64 + v % 64) := by unfold Admitted; omega
    obtain ⟨l, hl, hm, hbits, hsecond⟩ := exists_lead? (digit v) ha
    refine (scalars_two hl hsecond hm r).trans ?_
    rw [hbits, extend_ofNat _ (digit _), ← hc]
    congr 3
    omega
  · have ha : Admitted 2 (v / 4096 % 16 * 64 + v / 64 % 64) := by unfold Admitted; omega
    obtain ⟨l, hl, hm, hbits, hsecond⟩ := exists_lead? (digit (v / 64)) ha
    refine (scalars_three hl hsecond hm (isContinuation_ofNat (digit v)) r).trans ?_
    rw [hbits, extend_ofNat _ (digit _), extend_ofNat _ (digit _), ← hc]
    congr 3
    omega
  · have ha : Admitted 3 (v / 262144 % 8 * 64 + v / 4096 % 64) := by unfold Admitted; omega
    obtain ⟨l, hl, hm, hbits, hsecond⟩ := exists_lead? (digit (v / 4096)) ha
    refine (scalars_four hl hsecond hm (isContinuation_ofNat (digit (v / 64)))
      (isContinuation_ofNat (digit v)) r).trans ?_
    rw [hbits, extend_ofNat _ (digit _), extend_ofNat _ (digit _), extend_ofNat _ (digit _), ← hc]
    congr 3
    omega

/-- What was written is read as its characters. -/
theorem scalars_utf8 (s : String) : scalars (utf8 s) = s.toList.map some := by
  unfold utf8
  induction s.toList with
  | nil => rfl
  | cons c cs ih => rw [List.flatMap_cons, scalars_utf8EncodeChar_append, ih, List.map_cons]

/-- **Reading undoes writing.** -/
@[simp] theorem lossy_utf8 (s : String) : lossy (utf8 s) = s := by
  simp [lossy, scalars_utf8, Function.comp_def]

/-- A list of which every part is read as it is. -/
theorem mapM_some {α : Type} (l : List α) : l.mapM some = some l := by
  simpa using List.mapM_pure (m := Option) (l := l) (f := id)

/-- It does so too where nothing ill-formed is let through. -/
theorem decode?_utf8 (s : String) : decode? (utf8 s) = some s := by
  rw [decode?, scalars_utf8, List.mapM_map, Function.id_comp, mapM_some, Option.map_some,
    String.ofList_toList]

/-- Texts with the same bytes are equal. -/
theorem utf8_injective : Function.Injective utf8 := Function.LeftInverse.injective lossy_utf8

/-! ### Characters of ASCII -/

/-- A scalar value is the code of its character. -/
theorem toNat_charOfNat {n : Nat} (h : n.isValidChar) : (Char.ofNat n).toNat = n := by
  rw [Char.ofNat, dif_pos h]
  rfl

/-- A continuation byte adds a number below sixty-four. -/
theorem extend_bounds (bits : Nat) {b : UInt8} (h : isContinuation b = true) :
    bits * 64 ≤ extend bits b ∧ extend bits b < bits * 64 + 64 := by
  simp only [isContinuation, Bool.and_eq_true, decide_eq_true_eq, UInt8.le_iff_toNat_le,
    UInt8.reduceToNat] at h
  unfold extend
  omega

/-- What two bytes or more spell is a scalar value, and none of ASCII. -/
def IsWide (n : Nat) : Prop := n.isValidChar ∧ 0x80 ≤ n

/-- It is read as a character beyond ASCII. -/
theorem IsWide.le_toNat {n : Nat} (h : IsWide n) {c : Char} (hc : c ∈ some (Char.ofNat n)) :
    0x80 ≤ c.toNat := by
  rw [← Option.some.inj hc, toNat_charOfNat h.1]
  exact h.2

theorem Admitted.isWide {n : Nat} (h : Admitted 1 n) : IsWide n := by
  unfold Admitted at h
  unfold IsWide Nat.isValidChar
  omega

theorem Admitted.isWide_extend {n : Nat} {b : UInt8} (h : Admitted 2 n)
    (hb : isContinuation b = true) : IsWide (extend n b) := by
  have hn := extend_bounds n hb
  unfold Admitted at h
  unfold IsWide Nat.isValidChar
  omega

theorem Admitted.isWide_extend_extend {n : Nat} {b b' : UInt8} (h : Admitted 3 n)
    (hb : isContinuation b = true) (hb' : isContinuation b' = true) :
    IsWide (extend (extend n b) b') := by
  have hn := extend_bounds n hb
  have hn' := extend_bounds (extend n b) hb'
  unfold Admitted at h
  unfold IsWide Nat.isValidChar
  omega

/-- Bytes beyond ASCII. -/
def AreWide (b : Bytes) : Prop := ∀ x ∈ b, ¬x < 0x80

theorem areWide_cons {x : UInt8} {b : Bytes} : AreWide (x :: b) ↔ ¬x < 0x80 ∧ AreWide b :=
  List.forall_mem_cons

theorem areWide_nil : AreWide [] := List.forall_mem_nil _

/-- The second byte that is announced is none of ASCII. -/
theorem not_lt_of_low_le {b₀ b₁ : UInt8} {l : Lead} (h : lead? b₀ = some l) (h₁ : l.low ≤ b₁) :
    ¬b₁ < 0x80 := by
  unfold lead? at h
  dsimp only at h
  rw [UInt8.le_iff_toNat_le] at h₁
  simp only [UInt8.lt_iff_toNat_lt, UInt8.reduceToNat]
  split_ifs at h <;> obtain rfl := Option.some.inj h <;>
    simp only [UInt8.reduceToNat] at h₁ <;> omega

theorem not_lt_of_isContinuation {b : UInt8} (h : isContinuation b = true) : ¬b < 0x80 := by
  simp only [isContinuation, Bool.and_eq_true, decide_eq_true_eq] at h
  exact UInt8.not_lt.2 h.1

/-- **How reading goes on**: with one byte as a character of ASCII, or with one byte or more beyond
ASCII as another character or as an ill-formed part. -/
theorem exists_scalars_append {b : Bytes} (hb : b ≠ []) :
    ∃ part x rest, b = part ++ rest ∧ scalars b = x :: scalars rest ∧
      ((∃ b₀, part = [b₀] ∧ b₀ < 0x80 ∧ x = some (Char.ofNat b₀.toNat)) ∨
        part ≠ [] ∧ AreWide part ∧ ∀ c ∈ x, 0x80 ≤ c.toNat) := by
  have hnone : ∀ c ∈ (none : Option Char), 0x80 ≤ c.toNat := by
    rintro c ⟨⟩
  have hend : [none] = none :: scalars [] := by rw [scalars]
  have hone {b₀ : UInt8} (h : ¬b₀ < 0x80) : AreWide [b₀] := areWide_cons.2 ⟨h, areWide_nil⟩
  have htwo {b₀ b₁ : UInt8} {l : Lead} (h₀ : ¬b₀ < 0x80) (hl : lead? b₀ = some l)
      (h₁ : (l.low ≤ b₁ && b₁ ≤ l.high) = true) : AreWide [b₀, b₁] := by
    simp only [Bool.and_eq_true, decide_eq_true_eq] at h₁
    exact areWide_cons.2 ⟨h₀, hone (not_lt_of_low_le hl h₁.1)⟩
  have hmore {part : Bytes} {b' : UInt8} (h : AreWide part) (h' : isContinuation b' = true) :
      AreWide (part ++ [b']) :=
    List.forall_mem_append.2 ⟨h, hone (not_lt_of_isContinuation h')⟩
  -- one case for each way of reading on: a byte of ASCII, then two, three and four bytes
  fun_cases scalars b with
  | case1 => exact absurd rfl hb
  | case2 b₀ r h₀ => exact ⟨[b₀], _, r, rfl, rfl, .inl ⟨b₀, rfl, h₀, rfl⟩⟩
  | case5 b₀ h₀ l hl b₁ r h₁ hm =>
    have ha : Admitted l.more (extend l.bits b₁) := admitted_of_lead? hl (by simpa using h₁)
    rw [hm] at ha
    exact ⟨[b₀, b₁], _, r, rfl, rfl, .inr ⟨by simp, htwo h₀ hl h₁, fun c => ha.isWide.le_toNat⟩⟩
  | case7 b₀ h₀ l hl b₁ h₁ hm₁ b₂ r h₂ hm =>
    have ha : Admitted l.more (extend l.bits b₁) := admitted_of_lead? hl (by simpa using h₁)
    rw [hm] at ha
    exact ⟨[b₀, b₁, b₂], _, r, rfl, rfl, .inr ⟨by simp, hmore (htwo h₀ hl h₁) h₂,
      fun c => (ha.isWide_extend h₂).le_toNat⟩⟩
  | case9 b₀ h₀ l hl b₁ h₁ hm₁ b₂ h₂ hm₂ b₃ r h₃ =>
    have ha : Admitted l.more (extend l.bits b₁) := admitted_of_lead? hl (by simpa using h₁)
    have hm : l.more = 3 := by unfold Admitted at ha; omega
    rw [hm] at ha
    exact ⟨[b₀, b₁, b₂, b₃], _, r, rfl, rfl, .inr ⟨by simp, hmore (hmore (htwo h₀ hl h₁) h₂) h₃,
      fun c => (ha.isWide_extend_extend h₂ h₃).le_toNat⟩⟩
  -- an ill-formed part is passed over, or ends the bytes
  | case3 b₀ r h₀ => exact ⟨[b₀], none, r, rfl, rfl, .inr ⟨by simp, hone h₀, hnone⟩⟩
  | case4 b₀ h₀ => exact ⟨[b₀], none, [], rfl, hend, .inr ⟨by simp, hone h₀, hnone⟩⟩
  | case6 b₀ h₀ l hl b₁ h₁ =>
    exact ⟨[b₀, b₁], none, [], rfl, hend, .inr ⟨by simp, htwo h₀ hl h₁, hnone⟩⟩
  | case8 b₀ h₀ l hl b₁ h₁ hm₁ b₂ h₂ =>
    exact ⟨[b₀, b₁, b₂], none, [], rfl, hend, .inr ⟨by simp, hmore (htwo h₀ hl h₁) h₂, hnone⟩⟩
  | case12 b₀ h₀ l hl b₁ r =>
    exact ⟨[b₀], none, b₁ :: r, rfl, rfl, .inr ⟨by simp, hone h₀, hnone⟩⟩
  | case11 b₀ h₀ l hl b₁ h₁ hm₁ b₂ r =>
    exact ⟨[b₀, b₁], none, b₂ :: r, rfl, rfl, .inr ⟨by simp, htwo h₀ hl h₁, hnone⟩⟩
  | case10 b₀ h₀ l hl b₁ h₁ hm₁ b₂ h₂ hm₂ b₃ r =>
    exact ⟨[b₀, b₁, b₂], none, b₃ :: r, rfl, rfl,
      .inr ⟨by simp, hmore (htwo h₀ hl h₁) h₂, hnone⟩⟩

/-- What holds of the bytes that follow, wherever reading goes on, holds of all bytes. -/
theorem scalars_induction {motive : Bytes → Prop} (nil : motive [])
    (ascii : ∀ b₀ rest, scalars (b₀ :: rest) = some (Char.ofNat b₀.toNat) :: scalars rest →
      b₀ < 0x80 → motive rest → motive (b₀ :: rest))
    (other : ∀ part x rest, scalars (part ++ rest) = x :: scalars rest → AreWide part →
      (∀ c ∈ x, 0x80 ≤ c.toNat) → motive rest → motive (part ++ rest)) (b : Bytes) :
    motive b := by
  induction hn : b.length using Nat.strongRecOn generalizing b with
  | ind n ih =>
    by_cases hb : b = []
    · rwa [hb]
    · obtain ⟨part, x, rest, rfl, hx, hcase⟩ := exists_scalars_append hb
      have hshort (hpart : part ≠ []) : rest.length < n := by
        have hpos := List.length_pos_iff.2 hpart
        rw [← hn, List.length_append]
        omega
      rcases hcase with ⟨b₀, rfl, h₀, rfl⟩ | ⟨hpart, hwide, hx'⟩
      · exact ascii b₀ rest hx h₀ (ih _ (hshort (by simp)) rest rfl)
      · exact other part x rest hx hwide hx' (ih _ (hshort hpart) rest rfl)

/-- A character of ASCII is read only where its byte stands. -/
theorem mem_of_mem_scalars {c : Char} (hc : c.toNat < 0x80) {b : Bytes} (h : some c ∈ scalars b) :
    UInt8.ofNat c.toNat ∈ b := by
  induction b using scalars_induction with
  | nil => simp [scalars] at h
  | ascii b₀ rest hread h₀ ih =>
    rw [hread, List.mem_cons] at h
    rcases h with h | h
    · have hlt : b₀.toNat < 0x80 := UInt8.lt_iff_toNat_lt.1 h₀
      rw [Option.some.inj h, toNat_charOfNat (Or.inl (by omega)), UInt8.ofNat_toNat]
      exact List.mem_cons_self
    · exact List.mem_cons_of_mem _ (ih h)
  | other part x rest hread hwide hx ih =>
    rw [hread, List.mem_cons] at h
    rcases h with rfl | h
    · exact absurd hc (Nat.not_lt.2 (hx c rfl))
    · exact List.mem_append_right _ (ih h)

/-- The characters of a text that is read of bytes. -/
theorem toList_lossy (b : Bytes) : (lossy b).toList = (scalars b).map (·.getD '\uFFFD') := by
  rw [lossy, String.toList_ofList]

/-- **A character of ASCII is read only where its byte stands**, even in bytes that no text
wrote. -/
theorem mem_of_mem_lossy {c : Char} (hc : c.toNat < 0x80) {b : Bytes}
    (h : c ∈ (lossy b).toList) : UInt8.ofNat c.toNat ∈ b := by
  rw [toList_lossy] at h
  obtain ⟨x, hx, hxc⟩ := List.mem_map.1 h
  cases x with
  | none =>
    obtain rfl : '\uFFFD' = c := hxc
    exact absurd hc (by decide)
  | some d =>
    obtain rfl : d = c := hxc
    exact mem_of_mem_scalars hc hx

end Courier.Utf8
