import Courier.Headers
import Courier.Proofs.Distinct
import Courier.Proofs.Text.Utf8

/-!
# Reading a header

What is read of a header is read name by name: the values of one name
(`Courier.Headers.values`) settle whether it occurs, which value is read and what its text
is. The rest of this module says what each way of changing a header does to the values of
one name, and which characters the text of a value can hold – no ASCII character that may
not stand in a header (`Courier.Headers.notMem_lossy`).
-/

namespace Courier

/-- A token character is a visible character of ASCII. -/
theorem isTokenChar_bounds {c : Char} (h : isTokenChar c = true) :
    32 ≤ c.toNat ∧ c.toNat < 127 := by
  unfold isTokenChar at h
  rw [Bool.or_eq_true] at h
  rcases h with h | h
  · have hval : c.toNat = c.val.toNat := rfl
    have hletter : (decide (65 ≤ c.val ∧ c.val ≤ 90)
        || (decide (97 ≤ c.val) && decide (c.val ≤ 122))
        || (decide (48 ≤ c.val) && decide (c.val ≤ 57))) = true := h
    simp only [Bool.or_eq_true, Bool.and_eq_true, decide_eq_true_eq,
      UInt32.le_iff_toNat_le] at hletter
    simp at hletter
    omega
  · have hall : ("!#$%&'*+-.^_\x60|~".toList.all fun c => 32 ≤ c.toNat && c.toNat < 127) = true :=
      by decide
    simpa using List.all_eq_true.1 hall c (List.contains_iff_mem.1 h)

namespace HeaderName

/-- A name holds token characters only. -/
theorem isTokenChar_of_mem {n : HeaderName} {c : Char} (h : c ∈ n.text.toList) :
    isTokenChar c = true := by
  have hlegal := n.legal
  simp only [isFieldName, Bool.and_eq_true, List.all_eq_true] at hlegal
  exact (hlegal.2 c h).1

theorem ext {n m : HeaderName} (h : n.text = m.text) : n = m := by
  cases n
  cases m
  subst h
  rfl

end HeaderName

namespace HeaderValue

theorem ext {v w : HeaderValue} (h : v.bytes = w.bytes) : v = w := by
  cases v
  cases w
  subst h
  rfl

/-- Whether a text can stand in a header. -/
def isValueText (s : String) : Bool := (utf8 s).all isValueByte

@[simp] theorem isValueText_append (s t : String) :
    isValueText (s ++ t) = (isValueText s && isValueText t) := by
  simp [isValueText, utf8]

/-- Visible characters of ASCII can stand in a header. -/
theorem isValueText_of_visible {s : String}
    (h : ∀ c ∈ s.toList, 32 ≤ c.toNat ∧ c.toNat < 127) : isValueText s = true := by
  have hbyte : ∀ n < 127, 32 ≤ n → isValueByte (UInt8.ofNat n) = true := by decide
  rw [isValueText, utf8, List.all_flatMap, List.all_eq_true]
  intro c hc
  obtain ⟨hlow, hhigh⟩ := h c hc
  have hone : String.utf8EncodeChar c = [UInt8.ofNat c.toNat] := by
    unfold String.utf8EncodeChar
    exact if_pos (show c.toNat ≤ 0x7F by omega)
  rw [hone]
  simp [hbyte _ hhigh hlow]

theorem ofText?_eq_some_iff {s : String} {v : HeaderValue} :
    ofText? s = some v ↔ v.bytes = utf8 s := by
  obtain ⟨bytes, legal⟩ := v
  unfold ofText? ofBytes?
  split
  · simp [eq_comm]
  · rename_i h
    constructor
    · intro he
      cases he
    · rintro rfl
      exact absurd legal h

/-- A text can be made a value exactly if its bytes may stand in a header. -/
theorem exists_ofText?_eq_some_iff {s : String} :
    (∃ v, ofText? s = some v) ↔ isValueText s = true := by
  simp only [ofText?_eq_some_iff]
  constructor
  · rintro ⟨v, hv⟩
    rw [isValueText, ← hv]
    exact v.legal
  · intro h
    exact ⟨⟨utf8 s, h⟩, rfl⟩

/-- The text of a value that a text was made into is that text. -/
theorem lossy_of_ofText? {s : String} {v : HeaderValue} (h : ofText? s = some v) :
    v.lossy = s := by
  rw [lossy, ofText?_eq_some_iff.1 h, Utf8.lossy_utf8]

/-- The text of a value holds no ASCII character that may not stand in a header. -/
theorem notMem_lossy {c : Char} (hc : c.toNat < 0x80)
    (hb : isValueByte (UInt8.ofNat c.toNat) = false) (v : HeaderValue) :
    c ∉ v.lossy.toList := by
  intro h
  rw [List.all_eq_true.1 v.legal _ (Utf8.mem_of_mem_lossy hc h)] at hb
  exact absurd hb (by decide)

end HeaderValue

namespace Headers

/-- The text that is read holds no ASCII character that may not stand in a header. -/
theorem notMem_lossy {c : Char} (hc : c.toNat < 0x80)
    (hb : isValueByte (UInt8.ofNat c.toNat) = false) (h : Headers) (n : HeaderName) :
    c ∉ (h.lossy n).toList := by
  unfold lossy
  cases h.get? n with
  | none => simp
  | some v => exact v.notMem_lossy hc hb

/-- What is read is settled by the values. -/
theorem lossy_congr {h h' : Headers} {n : HeaderName} (hv : h.values n = h'.values n) :
    h.lossy n = h'.lossy n := by
  rw [lossy, lossy, get?, get?, hv]

/-- A name occurs if it has a value. -/
theorem contains_iff {h : Headers} {n : HeaderName} :
    h.contains n = true ↔ h.values n ≠ [] := by
  simp [contains, values, List.filter_eq_nil_iff]

theorem mem_names {h : Headers} {n : HeaderName} : n ∈ h.names ↔ h.values n ≠ [] := by
  rw [← contains_iff]
  simp [names, contains, List.mem_eraseDups]

theorem nodup_names (h : Headers) : h.names.Nodup := nodup_eraseDups _

end Headers

end Courier
