import Courier.Proofs.Signing.Canonical
import Courier.Proofs.Signing.SignedFields
import Mathlib.Data.List.Nodup

/-!
# The line of the host

Each signed name has one line in the canonical text
(`Courier.Canonical.linesOf_fieldLines`). On the line of the host a port `80` or `443` at the
end of the value is removed (`Courier.Canonical.IsStripped`), and the value is written as it is
if there is none.

But the value is cut at its **first** colon, and not in front of the port. So the port stays if
another colon stands before it, as in a literal in brackets: `[::1]:443` is written as it is,
and not as `[::1]`. That happens for these values and for no other
(`Courier.Canonical.linesOf_host_and_isStripped_iff`). A host name or an IPv4 address, with or
without a port, has no other colon than that of the port.
-/

namespace Courier.Canonical

/-! ### A port at the end -/

/-- A text that is another one with a default port behind it. -/
def EndsWithPort (t u : String) : Prop := t = u ++ ":80" ∨ t = u ++ ":443"

/-- What a host is without a default port at its end. -/
def IsStripped (t v : String) : Prop := EndsWithPort t v ∨ v = t ∧ ∀ u, ¬ EndsWithPort t u

/-- A default port at the end, and another colon before it. -/
def HidesPort (t : String) : Prop := ∃ u, EndsWithPort t u ∧ ':' ∈ u.toList

/-- There are not two ports at the end. -/
theorem EndsWithPort.unique {t u v : String} (hu : EndsWithPort t u) (hv : EndsWithPort t v) :
    u = v := by
  have hlast : ∀ x y : String, x ++ ":80" ≠ y ++ ":443" := by
    intro x y he
    have hchars := congrArg (fun s : String => s.toList.getLast?) he
    simp at hchars
  rcases hu with rfl | rfl <;> rcases hv with hv | hv
  · exact String.append_left_inj _ |>.1 hv
  · exact absurd hv (hlast _ _)
  · exact absurd hv.symm (hlast _ _)
  · exact String.append_left_inj _ |>.1 hv

theorem EndsWithPort.ne {t u : String} (ht : EndsWithPort t u) : t ≠ u := by
  rintro rfl
  rcases ht with he | he <;> simpa using congrArg String.length he

/-- A port behind the first colon is removed. -/
theorem withoutDefaultPort_of_endsWithPort {t u : String} (ht : EndsWithPort t u)
    (hu : ':' ∉ u.toList) : withoutDefaultPort t = u := by
  have hcut : ∀ port, splitAtFirst? ':' (u ++ ":" ++ port) = some (u, port) :=
    splitAtFirst?_append (by decide) hu
  rcases ht with rfl | rfl
  · have hport : u ++ ":80" = u ++ ":" ++ "80" := by rw [String.append_assoc]; rfl
    simp [withoutDefaultPort, hport, hcut]
  · have hport : u ++ ":443" = u ++ ":" ++ "443" := by rw [String.append_assoc]; rfl
    simp [withoutDefaultPort, hport, hcut]

/-- Any other value is kept. -/
theorem withoutDefaultPort_of_forall {t : String}
    (ht : ∀ u, EndsWithPort t u → ':' ∈ u.toList) : withoutDefaultPort t = t := by
  have hsep : ":".toList = [':'] := by decide
  unfold withoutDefaultPort
  split
  · rename_i name port hcut
    obtain ⟨hname, rfl⟩ := (splitAtFirst?_eq_some_iff hsep).1 hcut
    refine if_neg fun hport => hname (ht name ?_)
    rw [EndsWithPort, String.append_assoc]
    exact hport.imp (fun he => by rw [he]; rfl) (fun he => by rw [he]; rfl)
  · rfl

/-- A port behind another colon is not removed. -/
theorem withoutDefaultPort_of_hidesPort {t : String} (ht : HidesPort t) :
    withoutDefaultPort t = t := by
  obtain ⟨u, hu, hcolon⟩ := ht
  exact withoutDefaultPort_of_forall fun v hv => hu.unique hv ▸ hcolon

/-- **A port at the end is missed exactly if another colon stands before it.** -/
theorem isStripped_withoutDefaultPort_iff {t : String} :
    IsStripped t (withoutDefaultPort t) ↔ ¬ HidesPort t := by
  constructor
  · intro hs ht
    rw [withoutDefaultPort_of_hidesPort ht] at hs
    obtain ⟨u, hu, -⟩ := ht
    rcases hs with hself | ⟨-, hnone⟩
    · exact hself.ne rfl
    · exact hnone u hu
  · intro ht
    have hcolon : ∀ u, EndsWithPort t u → ':' ∉ u.toList := fun u hu hc => ht ⟨u, hu, hc⟩
    by_cases hport : ∃ u, EndsWithPort t u
    · obtain ⟨u, hu⟩ := hport
      rw [withoutDefaultPort_of_endsWithPort hu (hcolon u hu)]
      exact Or.inl hu
    · rw [withoutDefaultPort_of_forall fun u hu => absurd ⟨u, hu⟩ hport]
      exact Or.inr ⟨rfl, fun u hu => hport ⟨u, hu⟩⟩

/-! ### The lines of a name -/

/-- The lines of a text that begin with a name and a colon. -/
def linesOf (n : HeaderName) (text : String) : List String :=
  (splitAll '\n' text).filter (startsWith · (n.text ++ ":"))

/-- A field line begins with its name. -/
theorem startsWith_fieldLine (f : HeaderName × String) (n : HeaderName) :
    startsWith (fieldLine f) (n.text ++ ":") = decide (f.1 = n) := by
  rw [Bool.eq_iff_iff, startsWith_iff, decide_eq_true_eq]
  constructor
  · rintro ⟨rest, he⟩
    exact congrArg Prod.fst (fieldLine_inj (f := f) (g := (n, rest)) |>.1 he)
  · rintro rfl
    exact ⟨f.2, rfl⟩

/-- The text of field lines falls into these lines, and an empty one after the last line
feed. -/
theorem splitAll_fieldLines (fields : List (HeaderName × String))
    (hfields : ∀ f ∈ fields, '\n' ∉ (fieldLine f).toList) :
    splitAll '\n' (fieldLines fields) = fields.map fieldLine ++ [""] := by
  have htext := intercalate_map_fieldLine fields (List.cons_ne_nil "" [])
  rw [String.intercalate_singleton, String.append_empty] at htext
  rw [← htext]
  refine splitAll_intercalate (by decide) (by simp) fun s hs => ?_
  rcases List.mem_append.1 hs with hs | hs
  · obtain ⟨f, hf, rfl⟩ := List.mem_map.1 hs
    exact hfields f hf
  · simp [List.mem_singleton.1 hs]

/-- **A signed name has one line**, with its canonical value. -/
theorem linesOf_fieldLines {h : Headers} {n : HeaderName} (hn : n ∈ signedNames h) :
    linesOf n (fieldLines (signedFields h)) = [n.text ++ ":" ++ fieldValue n (h.lossy n)] := by
  have hsplit := splitAll_fieldLines (signedFields h) fun f hf =>
    notMem_fieldLine (notMem_of_mem_signedFields hf)
  have hempty : startsWith "" (n.text ++ ":") = false := by
    rw [Bool.eq_false_iff, ne_eq, startsWith_iff]
    rintro ⟨rest, he⟩
    exact absurd he.symm (by simp)
  have hname : (signedNames h).filter (· = n) = [n] := by
    have hcount := List.count_eq_one_of_mem (nodup_signedNames h) hn
    rw [List.filter_eq, hcount]
    rfl
  rw [linesOf, hsplit, List.filter_append, List.filter_map, signedFields, List.filter_map]
  simp only [Function.comp_def, startsWith_fieldLine, hname]
  simp [fieldLine, hempty]

/-- **The line of the host.** A header with a host has one such line. Its value is that of the
header between white space, without a default port at its end, exactly if no other colon stands
before such a port; and else it is the value with the port. -/
theorem linesOf_host_and_isStripped_iff {h : Headers} (hh : h.contains .host = true) :
    let text := trim (h.lossy .host)
    ∃ value, linesOf .host (fieldLines (signedFields h)) = ["host:" ++ value] ∧
      (IsStripped text value ↔ ¬ HidesPort text) ∧ (HidesPort text → value = text) := by
  intro text
  have hsigned : HeaderName.host ∈ signedNames h :=
    mem_signedNames.2 ⟨by decide, Headers.contains_iff.1 hh⟩
  have hline := linesOf_fieldLines hsigned
  rw [show fieldValue .host (h.lossy .host) = withoutDefaultPort text from if_pos rfl] at hline
  exact ⟨withoutDefaultPort text, hline, isStripped_withoutDefaultPort_iff,
    withoutDefaultPort_of_hidesPort⟩

/-- The port behind a literal in brackets stays. -/
theorem linesOf_host_bracketed :
    let h : Headers := ⟨[(.host, ⟨utf8 "[::1]:443", by decide⟩)]⟩
    linesOf .host (fieldLines (signedFields h)) = ["host:[::1]:443"] ∧
      IsStripped (trim (h.lossy .host)) "[::1]" := by
  intro h
  have htext : trim (h.lossy .host) = "[::1]:443" := by decide +kernel
  obtain ⟨value, hline, -, hvalue⟩ := linesOf_host_and_isStripped_iff (h := h) (by decide)
  rw [htext] at hvalue ⊢
  rw [hline, hvalue ⟨"[::1]", Or.inr (by decide), by decide⟩]
  exact ⟨rfl, Or.inl (Or.inr (by decide))⟩

end Courier.Canonical
