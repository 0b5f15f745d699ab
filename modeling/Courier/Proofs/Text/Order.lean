import Courier.Proofs.Text.Utf8
import Mathlib.Data.List.Lex
import Mathlib.Data.String.Basic
import Mathlib.Tactic.SplitIfs

/-!
# The order of texts

Texts are compared character by character. Their bytes are in the same order
(`Courier.utf8_lt_utf8_iff`), since the first byte of a character tells how many there are, and
both this number and the digits that follow grow with the character
(`Courier.Utf8.utf8EncodeChar_append_lt`).
-/

namespace Courier

namespace Utf8

/-- Bytes are compared at the first place where they differ. -/
theorem ofNat_cons_lt {m n : Nat} {x y : Bytes} (hn : n < 256) (h : m < n ∨ m = n ∧ x < y) :
    UInt8.ofNat m :: x < UInt8.ofNat n :: y := by
  rcases h with hmn | ⟨rfl, hxy⟩
  · refine List.cons_lt_cons_iff.2 (Or.inl ?_)
    rw [UInt8.lt_iff_toNat_lt, toNat_ofNat_of_lt hn, toNat_ofNat_of_lt (hmn.trans hn)]
    exact hmn
  · exact List.cons_lt_cons_iff.2 (Or.inr ⟨rfl, hxy⟩)

/-- **A smaller character has smaller bytes**, whatever follows. -/
theorem utf8EncodeChar_append_lt {c d : Char} (h : c < d) (x y : Bytes) :
    String.utf8EncodeChar c ++ x < String.utf8EncodeChar d ++ y := by
  have hd : d.val.toNat < 0xD800 ∨ 0xDFFF < d.val.toNat ∧ d.val.toNat < 0x110000 := d.valid
  have hlt : c.val.toNat < d.val.toNat := h
  unfold String.utf8EncodeChar
  generalize c.val.toNat = v at hlt
  generalize d.val.toNat = w at hlt hd
  dsimp only
  split_ifs
  -- the first byte decides, unless both characters have as many bytes, and more than one
  all_goals try first
    | exact ofNat_cons_lt (by omega) (Or.inl (by omega))
    | omega
  · refine ofNat_cons_lt (by omega) (Or.imp_right (And.imp_right fun h =>
      ofNat_cons_lt (by omega) (Or.inl h)) ?_)
    omega
  · refine ofNat_cons_lt (by omega) (Or.imp_right (And.imp_right fun h =>
      ofNat_cons_lt (by omega) (Or.imp_right (And.imp_right fun h =>
        ofNat_cons_lt (by omega) (Or.inl h)) h)) ?_)
    omega
  · refine ofNat_cons_lt (by omega) (Or.imp_right (And.imp_right fun h =>
      ofNat_cons_lt (by omega) (Or.imp_right (And.imp_right fun h =>
        ofNat_cons_lt (by omega) (Or.imp_right (And.imp_right fun h =>
          ofNat_cons_lt (by omega) (Or.inl h)) h)) h)) ?_)
    have hdigit : ∀ n, n / 262144 = n / 4096 / 64 :=
      fun n => (Nat.div_div_eq_div_mul n 4096 64).symm
    rw [hdigit v, hdigit w]
    omega

end Utf8

/-- A smaller text has smaller bytes. -/
theorem utf8_lt_utf8 {s t : String} (h : s < t) : utf8 s < utf8 t := by
  rw [String.lt_iff_toList_lt] at h
  unfold utf8
  generalize s.toList = cs at h
  generalize t.toList = ds at h
  induction cs generalizing ds with
  | nil =>
    cases ds with
    | nil => exact absurd h (lt_irrefl _)
    | cons d ds =>
      obtain ⟨b, r, hb⟩ := List.exists_cons_of_ne_nil (String.utf8EncodeChar_ne_nil (c := d))
      rw [List.flatMap_cons, hb]
      exact List.nil_lt_cons _ _
  | cons c cs ih =>
    cases ds with
    | nil => exact absurd h (List.not_lt_nil _)
    | cons d ds =>
      rw [List.flatMap_cons, List.flatMap_cons]
      rcases List.cons_lt_cons_iff.1 h with hcd | ⟨rfl, hcs⟩
      · exact Utf8.utf8EncodeChar_append_lt hcd _ _
      · exact List.append_left_lt (ih _ hcs)

/-- **Texts are in the order of their bytes.** -/
theorem utf8_lt_utf8_iff {s t : String} : utf8 s < utf8 t ↔ s < t := by
  refine ⟨fun h => ?_, utf8_lt_utf8⟩
  rcases lt_trichotomy s t with hst | rfl | hts
  · exact hst
  · exact absurd h (List.lt_irrefl _)
  · exact absurd (utf8_lt_utf8 hts) (List.lt_asymm h)

end Courier
