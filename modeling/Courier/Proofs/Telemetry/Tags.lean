import Courier.Proofs.Text.Separated
import Courier.Proofs.Text.Sorted
import Courier.Telemetry.Tag
import Mathlib.Data.List.Nodup
import Mathlib.Data.List.Perm.Basic

/-!
# Tags that are read

A series is told apart by its tags as texts, in ascending order, and what is shown of it is the
table that is read in them. Reading forgets some of the texts:

| a text | what is read |
|---|---|
| without a colon | nothing (`Courier.Tag.parse_sorted_cons_of_notMem`) |
| that is there already | nothing more (`Courier.Tag.parse_sorted_cons_of_mem`) |
| whose key has a greater text | nothing, for of several with one key the last counts |

It forgets nothing of tags **as they are meant**, a key and a value each and different keys
(`Courier.Tag.AreProper`): these are known from their table, up to their order
(`Courier.Tag.AreProper.perm_of_parse_eq`).
-/

namespace Courier

/-- Of entries with different keys each is read. -/
theorem Table.get?_ofList_eq_some_iff {α : Type} {l : List (String × α)}
    (h : (l.map (·.1)).Nodup) {k : String} {v : α} :
    (Table.ofList l).get? k = some v ↔ (k, v) ∈ l := by
  rw [Table.get?_ofList, Option.map_eq_some_iff]
  constructor
  · rintro ⟨e, he, rfl⟩
    have hk : e.1 = k := by simpa using List.find?_some he
    exact hk ▸ List.mem_reverse.1 (List.mem_of_find?_eq_some he)
  · intro hmem
    obtain ⟨e, he⟩ : ∃ e, l.reverse.find? (·.1 = k) = some e := by
      rw [← Option.isSome_iff_exists, List.find?_isSome]
      exact ⟨(k, v), List.mem_reverse.2 hmem, by simp⟩
    have hk : e.1 = k := by simpa using List.find?_some he
    have hel : e ∈ l := List.mem_reverse.1 (List.mem_of_find?_eq_some he)
    exact ⟨e, he, congrArg Prod.snd (List.inj_on_of_nodup_map h hel hmem hk)⟩

/-- Reading an entry twice in a row is reading it once. -/
theorem Table.insert_insert_self {α : Type} (t : Table α) (k : String) (v : α) :
    (t.insert k v).insert k v = t.insert k v := by
  refine Table.ext_get? fun j => ?_
  rw [Table.get?_insert, Table.get?_insert]
  split <;> rfl

/-- Sorting texts and leaving some out can be done in any order. -/
theorem filter_sortedByText_id (p : String → Bool) (l : List String) :
    (sortedByText id l).filter p = sortedByText id (l.filter p) := by
  rw [eq_sortedByText_id_iff]
  exact ⟨(pairwise_sortedByText id l).filter p, (sortedByText_perm id l).filter p⟩

namespace Tag

/-- **Tags as they are meant**, with the keys and values in them: each is a key without a colon, a
colon and a value, and the keys differ. -/
structure AreProper (tags : List String) (entries : List (String × String)) : Prop where
  written : tags = entries.map fun e => e.1 ++ ":" ++ e.2
  notMem : ∀ e ∈ entries, ':' ∉ e.1.toList
  nodup : (entries.map (·.1)).Nodup

theorem AreProper.filterMap_eq {tags : List String} {entries : List (String × String)}
    (h : AreProper tags entries) : tags.filterMap (splitAtFirst? ':') = entries := by
  rw [h.written, List.filterMap_map]
  conv_rhs => rw [← List.filterMap_some (l := entries)]
  refine List.filterMap_congr fun e he => ?_
  exact splitAtFirst?_append (by decide) (h.notMem e he) e.2

/-- **Tags as they are meant are read as their keys and values**, in any order. -/
theorem AreProper.get?_parse_sorted {tags : List String} {entries : List (String × String)}
    (h : AreProper tags entries) (k v : String) :
    (parse (sortedByText id tags)).get? k = some v ↔ (k, v) ∈ entries := by
  have hperm : ((sortedByText id tags).filterMap (splitAtFirst? ':')).Perm entries := by
    rw [← h.filterMap_eq]
    exact (sortedByText_perm id tags).filterMap _
  have hnodup := (hperm.map (·.1)).nodup_iff.2 h.nodup
  rw [parse, Table.get?_ofList_eq_some_iff hnodup]
  exact hperm.mem_iff

/-- **Nothing of tags as they are meant is forgotten** but their order. -/
theorem AreProper.perm_of_parse_eq {tags tags' : List String}
    {entries entries' : List (String × String)} (h : AreProper tags entries)
    (h' : AreProper tags' entries')
    (hparse : parse (sortedByText id tags) = parse (sortedByText id tags')) : tags.Perm tags' := by
  have hmem : ∀ e, e ∈ entries ↔ e ∈ entries' := by
    rintro ⟨k, v⟩
    rw [← h.get?_parse_sorted, hparse, h'.get?_parse_sorted]
  have hperm : entries.Perm entries' :=
    (List.perm_ext_iff_of_nodup h.nodup.of_map h'.nodup.of_map).2 hmem
  rw [h.written, h'.written]
  exact hperm.map _

/-- A text without a colon is not read. -/
theorem parse_sorted_cons_of_notMem {t : String} (ht : ':' ∉ t.toList) (tags : List String) :
    parse (sortedByText id (t :: tags)) = parse (sortedByText id tags) := by
  have hread (l : List String) : parse l = parse (l.filter fun s => ':' ∈ s.toList) := by
    rw [parse, parse, List.filterMap_filter]
    refine congrArg Table.ofList (List.filterMap_congr fun s _ => ?_)
    by_cases hs : ':' ∈ s.toList
    · simp [hs]
    · simp [hs, splitAtFirst?_of_notMem hs]
  rw [hread (sortedByText id (t :: tags)), hread (sortedByText id tags), filter_sortedByText_id,
    filter_sortedByText_id, List.filter_cons_of_neg (by simpa using ht)]

/-- A text that is there already is not read again. -/
theorem parse_sorted_cons_of_mem {t : String} {tags : List String} (ht : t ∈ tags) :
    parse (sortedByText id (t :: tags)) = parse (sortedByText id tags) := by
  obtain ⟨front, rest, hsorted⟩ :=
    List.append_of_mem ((sortedByText_perm id tags).mem_iff.2 ht)
  -- in ascending order the two stand side by side
  have htwice : sortedByText id (t :: tags) = front ++ t :: t :: rest := by
    have hpair := pairwise_sortedByText id tags
    rw [hsorted, List.pairwise_append, List.pairwise_cons] at hpair
    obtain ⟨hfront, ⟨hhead, hrest⟩, hacross⟩ := hpair
    refine (eq_sortedByText_id_iff.2 ⟨List.pairwise_append.2 ⟨hfront, ?_, ?_⟩, ?_⟩).symm
    · exact List.pairwise_cons.2 ⟨List.forall_mem_cons.2 ⟨String.le_refl _, hhead⟩,
        List.pairwise_cons.2 ⟨hhead, hrest⟩⟩
    · intro a ha
      exact List.forall_mem_cons.2 ⟨hacross a ha t List.mem_cons_self, hacross a ha⟩
    · refine List.perm_middle.trans (List.Perm.cons t ?_)
      exact (List.Perm.of_eq hsorted.symm).trans (sortedByText_perm id tags)
  rw [htwice, hsorted, parse, parse, List.filterMap_append, List.filterMap_append]
  cases he : splitAtFirst? ':' t with
  | none => simp [he]
  | some e =>
    simp [he, Table.ofList, List.foldl_append, Table.insert_insert_self]

end Tag

end Courier
