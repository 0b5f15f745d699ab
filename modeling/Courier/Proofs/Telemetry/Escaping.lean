import Courier.Proofs.Telemetry.Tags
import Courier.Telemetry.Aggregator

/-!
# Tags that are written and read

The value of a tag is written with a word in place of each of three characters, in three passes
over the whole text. A pass might replace what an earlier one has put in, but no word holds any of
the three characters, so the passes do not meet: together they are **one substitution, character by
character** (`Courier.Tag.toList_escape`).

| a character | what is written |
|---|---|
| `?` | `-qu-` |
| `&` | `-and-` |
| `=` | `-eq-` |
| any other | itself |

All else about the passes follows from this. What is written has none of the three characters, so
to write it again changes nothing.

Tags are then sorted as texts and read at their first colon. The first colon of a tag is the one
behind its key, as long as the key has none, whatever the value holds. So **the values are read as
they were written**, each under its key (`Courier.Tag.areProper_render`).
-/

namespace Courier.Tag

/-! ### One substitution -/

/-- What is written of a character. -/
def written : Char → List Char
  | '?' => "-qu-".toList
  | '&' => "-and-".toList
  | '=' => "-eq-".toList
  | c => [c]

/-- The characters that are not written. -/
def separators : List Char := ['?', '&', '=']

theorem written_of_notMem {c : Char} (h : c ∉ separators) : written c = [c] := by
  simp only [separators, List.mem_cons, List.not_mem_nil, or_false, not_or] at h
  unfold written
  split
  · exact absurd rfl h.1
  · exact absurd rfl h.2.1
  · exact absurd rfl h.2.2
  · rfl

/-- What is written is none of the separators. -/
theorem notMem_separators_of_mem_written {c d : Char} (h : d ∈ written c) : d ∉ separators := by
  by_cases hc : c ∈ separators
  · have hall : (separators.all fun c =>
        (written c).all fun d => decide (d ∉ separators)) = true := by decide
    exact of_decide_eq_true (List.all_eq_true.1 (List.all_eq_true.1 hall c hc) d h)
  · rw [written_of_notMem hc, List.mem_singleton] at h
    rwa [h]

theorem toList_replaced (c : Char) (word s : String) :
    (replaced c word s).toList = s.toList.flatMap fun x => if x = c then word.toList else [x] := by
  rw [replaced, String.toList_ofList]

/-- **The three passes are one substitution**, character by character. -/
theorem toList_escape (value : String) : (escape value).toList = value.toList.flatMap written := by
  rw [escape, toList_replaced, toList_replaced, toList_replaced, List.flatMap_assoc,
    List.flatMap_assoc]
  refine List.flatMap_congr fun c _ => ?_
  by_cases hc : c ∈ separators
  · simp only [separators, List.mem_cons, List.not_mem_nil, or_false] at hc
    rcases hc with rfl | rfl | rfl <;> decide
  · rw [written_of_notMem hc]
    simp only [separators, List.mem_cons, List.not_mem_nil, or_false, not_or] at hc
    simp [hc.1, hc.2.1, hc.2.2]

/-- What is written of a text is written part by part. -/
theorem escape_append (s t : String) : escape (s ++ t) = escape s ++ escape t :=
  String.toList_inj.1 (by simp [toList_escape])

/-- **Nothing that has a meaning to the collector is written.** -/
theorem notMem_separators_of_mem_escape {value : String} {c : Char}
    (h : c ∈ (escape value).toList) : c ∉ separators := by
  rw [toList_escape] at h
  obtain ⟨d, -, hd⟩ := List.mem_flatMap.1 h
  exact notMem_separators_of_mem_written hd

/-- A text without the separators is written as it is. -/
theorem escape_of_forall_notMem {value : String} (h : ∀ c ∈ value.toList, c ∉ separators) :
    escape value = value := by
  refine String.toList_inj.1 ?_
  rw [toList_escape, List.flatMap_congr fun c hc => written_of_notMem (h c hc)]
  exact List.flatMap_singleton' _

/-- To write what was written changes nothing. -/
theorem escape_escape (value : String) : escape (escape value) = escape value :=
  escape_of_forall_notMem fun _ => notMem_separators_of_mem_escape

/-! ### Tags that were written -/

/-- Keys and the values as they are written. -/
def writtenEntries (pairs : List (String × String)) : List (String × String) :=
  pairs.map fun p => (p.1, escape p.2)

/-- **Tags that were written are tags as they are meant**, if the keys differ and have no colon. -/
theorem areProper_render {pairs : List (String × String)} (hnodup : (pairs.map (·.1)).Nodup)
    (hcolon : ∀ p ∈ pairs, ':' ∉ p.1.toList) :
    AreProper (pairs.map fun p => render p.1 p.2) (writtenEntries pairs) where
  written := by
    rw [writtenEntries, List.map_map]
    rfl
  notMem e he := by
    obtain ⟨p, hp, rfl⟩ := List.mem_map.1 he
    exact hcolon p hp
  nodup := by rwa [writtenEntries, List.map_map]

/-- **Tags survive.** Tags that were written with different keys, none of which has a colon, are
read from a sample as they were written, in whatever order it has them; and to write a value is one
substitution, which is made part by part, leaves nothing to be written again and none of the three
characters that have a meaning to the collector. -/
theorem get?_parse_key_and_toList_escape {α : Type} :
    (∀ (e : MetricEvent α) (pairs : List (String × String)), (pairs.map (·.1)).Nodup →
        (∀ p ∈ pairs, ':' ∉ p.1.toList) → e.tags.Perm (pairs.map fun p => render p.1 p.2) →
        ∀ k v, (parse e.key.tags).get? k = some v ↔
          ∃ value, (k, value) ∈ pairs ∧ v = escape value) ∧
      (∀ value, (escape value).toList = value.toList.flatMap written) ∧
      (∀ s t, escape (s ++ t) = escape s ++ escape t) ∧
      (∀ value, escape (escape value) = escape value) ∧
      ∀ value, ∀ c ∈ ['?', '&', '='], c ∉ (escape value).toList := by
  refine ⟨fun e pairs hnodup hcolon htags k v => ?_, toList_escape, escape_append, escape_escape,
    fun value c hc hmem => notMem_separators_of_mem_escape hmem hc⟩
  have hsorted : e.key.tags = sortedByText id (pairs.map fun p => render p.1 p.2) :=
    sortedByText_id_eq_iff.2 htags
  rw [hsorted, (areProper_render hnodup hcolon).get?_parse_sorted, writtenEntries, List.mem_map]
  constructor
  · rintro ⟨p, hp, he⟩
    obtain ⟨rfl, rfl⟩ := Prod.mk.inj he
    exact ⟨p.2, hp, rfl⟩
  · rintro ⟨value, hp, rfl⟩
    exact ⟨(k, value), hp, rfl⟩

/-- A value with colons, a separator and a word for one, under the empty key. -/
theorem get?_parse_key_colons :
    let pairs := [("url", "http://h/p?a=1"), ("", "::-qu-&")]
    let e : MetricEvent Nat :=
      ⟨.counter, "c", 1, [":::-qu--and-", "url:http://h/p-qu-a-eq-1"]⟩
    (pairs.map (·.1)).Nodup ∧ (∀ p ∈ pairs, ':' ∉ p.1.toList) ∧
      e.tags.Perm (pairs.map fun p => render p.1 p.2) ∧
      (parse e.key.tags).get? "" = some (escape "::-qu-&") := by
  intro pairs e
  have hnodup : (pairs.map (·.1)).Nodup := by decide
  have hcolon : ∀ p ∈ pairs, ':' ∉ p.1.toList := by decide
  have htags : e.tags.Perm (pairs.map fun p => render p.1 p.2) := by
    have hwritten : pairs.map (fun p => render p.1 p.2) = e.tags.reverse := by decide +kernel
    rw [hwritten]
    exact (List.reverse_perm e.tags).symm
  refine ⟨hnodup, hcolon, htags, ?_⟩
  rw [get?_parse_key_and_toList_escape.1 e pairs hnodup hcolon htags]
  exact ⟨"::-qu-&", by decide, rfl⟩

end Courier.Tag
