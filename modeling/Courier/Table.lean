/-!
# Tables in ascending order of their keys

A finite map from texts. The entries are held in strictly ascending order of their keys,
and **the order is part of the type**: two tables with the same entries are equal, and
listing a table needs no sorting.

* `Table.insert` – an entry put in its place; it replaces an entry of the same key;
* `Table.get?` – the value of a key;
* `Table.map` – the same keys with other values.
-/

namespace Courier

/-- A finite map from texts, in ascending order of its keys. -/
structure Table (α : Type) where
  entries : List (String × α)
  ascending : entries.Pairwise fun a b => a.1 < b.1

namespace Table

variable {α β : Type}

instance [DecidableEq α] : DecidableEq (Table α) := fun a b =>
  if h : a.entries = b.entries then
    isTrue (by cases a; cases b; cases h; rfl)
  else isFalse fun e => h (e ▸ rfl)

/-- No entry. -/
def empty : Table α := ⟨[], .nil⟩

instance : Inhabited (Table α) := ⟨empty⟩

/-- An entry put in its place among entries in ascending order. -/
def insertEntry (k : String) (v : α) : List (String × α) → List (String × α)
  | [] => [(k, v)]
  | e :: rest =>
    if k < e.1 then (k, v) :: e :: rest
    else if e.1 < k then e :: insertEntry k v rest
    else (k, v) :: rest

/-- The keys after an insertion are the old ones and the new one. -/
theorem mem_insertEntry {k : String} {v : α} {l : List (String × α)} {x : String × α}
    (h : x ∈ insertEntry k v l) : x = (k, v) ∨ x ∈ l := by
  induction l with
  | nil => simpa [insertEntry] using h
  | cons e rest ih =>
    simp only [insertEntry] at h
    split at h
    · simpa using h
    · split at h
      · rcases List.mem_cons.1 h with h | h
        · simp [h]
        · rcases ih h with h | h <;> simp [h]
      · rcases List.mem_cons.1 h with h | h <;> simp [h]

/-- An insertion keeps the order. -/
theorem pairwise_insertEntry (k : String) (v : α) {l : List (String × α)}
    (h : l.Pairwise fun a b => a.1 < b.1) :
    (insertEntry k v l).Pairwise fun a b => a.1 < b.1 := by
  induction l with
  | nil => simp [insertEntry]
  | cons e rest ih =>
    obtain ⟨he, hr⟩ := List.pairwise_cons.1 h
    simp only [insertEntry]
    split
    · rename_i hk
      refine List.pairwise_cons.2 ⟨fun x hx => ?_, h⟩
      rcases List.mem_cons.1 hx with rfl | hx
      · exact hk
      · exact String.lt_trans hk (he x hx)
    · rename_i hk
      split
      · rename_i hk'
        refine List.pairwise_cons.2 ⟨fun x hx => ?_, ih hr⟩
        rcases mem_insertEntry hx with rfl | hx
        · exact hk'
        · exact he x hx
      · rename_i hk'
        have : k = e.1 := String.le_antisymm (String.not_lt.1 hk') (String.not_lt.1 hk)
        subst this
        exact List.pairwise_cons.2 ⟨he, hr⟩

/-- An entry put in its place; it replaces an entry of the same key. -/
def insert (t : Table α) (k : String) (v : α) : Table α :=
  ⟨insertEntry k v t.entries, pairwise_insertEntry k v t.ascending⟩

/-- The value of a key in a list of entries. -/
def valueIn? (k : String) : List (String × α) → Option α
  | [] => none
  | e :: rest => if k = e.1 then some e.2 else valueIn? k rest

/-- The value of a key. -/
def get? (t : Table α) (k : String) : Option α := valueIn? k t.entries

/-- Whether a key has a value. -/
def contains (t : Table α) (k : String) : Bool := (t.get? k).isSome

/-- The keys in ascending order. -/
def keys (t : Table α) : List String := t.entries.map (·.1)

/-- The values in the order of their keys. -/
def values (t : Table α) : List α := t.entries.map (·.2)

/-- Whether there is no entry. -/
def isEmpty (t : Table α) : Bool := t.entries.isEmpty

/-- The table of a list of entries; of several with one key the last counts. -/
def ofList (l : List (String × α)) : Table α := l.foldl (fun t e => t.insert e.1 e.2) empty

/-- Other values for the same keys. -/
def map (f : α → β) (t : Table α) : Table β :=
  ⟨t.entries.map fun e => (e.1, f e.2), List.pairwise_map.2 t.ascending⟩

/-- The entries that a test admits. -/
def filter (p : String × α → Bool) (t : Table α) : Table α :=
  ⟨t.entries.filter p, t.ascending.filter p⟩

@[simp] theorem keys_map (f : α → β) (t : Table α) : (t.map f).keys = t.keys := by
  simp [keys, map, Function.comp_def]

theorem map_map {γ : Type} (f : α → β) (g : β → γ) (t : Table α) :
    (t.map f).map g = t.map (g ∘ f) := by
  simp [map, Function.comp_def]

/-- Looking a key up after an insertion among entries in ascending order. -/
theorem valueIn?_insertEntry (k j : String) (v : α) {l : List (String × α)} :
    valueIn? j (insertEntry k v l) = if j = k then some v else valueIn? j l := by
  induction l with
  | nil => simp [insertEntry, valueIn?]
  | cons e rest ih =>
    simp only [insertEntry]
    split
    · simp [valueIn?]
    · rename_i hk
      split
      · rename_i hk'
        by_cases h : j = k
        · subst h
          have hne : ¬ j = e.1 := fun h => String.lt_irrefl _ (h ▸ hk')
          simp [valueIn?, hne, ih]
        · simp [valueIn?, h, ih]
      · rename_i hk'
        have : k = e.1 := String.le_antisymm (String.not_lt.1 hk') (String.not_lt.1 hk)
        by_cases h : j = k <;> simp [valueIn?, h, ← this]

/-- **Reading after writing.** -/
theorem get?_insert (t : Table α) (k j : String) (v : α) :
    (t.insert k v).get? j = if j = k then some v else t.get? j :=
  valueIn?_insertEntry k j v

@[simp] theorem get?_empty (k : String) : (empty : Table α).get? k = none := rfl

/-- The value of a key after a change of all values. -/
theorem valueIn?_map (f : α → β) (k : String) (l : List (String × α)) :
    valueIn? k (l.map fun e => (e.1, f e.2)) = (valueIn? k l).map f := by
  induction l with
  | nil => rfl
  | cons e rest ih =>
    by_cases h : k = e.1 <;> simp [valueIn?, h]
    simpa [h] using ih

@[simp] theorem get?_map (f : α → β) (t : Table α) (k : String) :
    (t.map f).get? k = (t.get? k).map f :=
  valueIn?_map f k t.entries

/-- Looking a key up among entries in ascending order finds its entry, if it has one. -/
theorem valueIn?_eq_some_iff {k : String} {v : α} {l : List (String × α)}
    (h : l.Pairwise fun a b => a.1 < b.1) : valueIn? k l = some v ↔ (k, v) ∈ l := by
  induction l with
  | nil => simp [valueIn?]
  | cons e rest ih =>
    obtain ⟨he, hr⟩ := List.pairwise_cons.1 h
    obtain ⟨j, w⟩ := e
    by_cases hk : k = j
    · subst hk
      have hnot : (k, v) ∉ rest := fun hmem => String.lt_irrefl _ (he (k, v) hmem)
      simp [valueIn?, hnot, eq_comm]
    · simp [valueIn?, hk, ih hr]

/-- A table has the entries that reading finds. -/
theorem get?_eq_some_iff {t : Table α} {k : String} {v : α} :
    t.get? k = some v ↔ (k, v) ∈ t.entries :=
  valueIn?_eq_some_iff t.ascending

/-- Reading a table of the entries whose keys pass a test. -/
theorem get?_filter_key (p : String → Bool) (t : Table α) (k : String) :
    (t.filter fun e => p e.1).get? k = if p k then t.get? k else none := by
  ext v
  rw [get?_eq_some_iff]
  by_cases h : p k <;> simp [filter, h, get?_eq_some_iff]

theorem mem_values {t : Table α} {v : α} : v ∈ t.values ↔ ∃ k, t.get? k = some v := by
  simp [values, get?_eq_some_iff]

theorem mem_keys {t : Table α} {k : String} : k ∈ t.keys ↔ (t.get? k).isSome = true := by
  simp [keys, Option.isSome_iff_exists, get?_eq_some_iff]

/-- No key occurs twice. -/
theorem nodup_keys (t : Table α) : t.keys.Nodup := by
  rw [keys, List.Nodup, List.pairwise_map]
  refine t.ascending.imp fun {e e'} hlt heq => ?_
  rw [heq] at hlt
  exact String.lt_irrefl _ hlt

/-- Tables that are read alike are equal. -/
theorem ext_get? {t t' : Table α} (h : ∀ k, t.get? k = t'.get? k) : t = t' := by
  have hmem : ∀ e, e ∈ t.entries ↔ e ∈ t'.entries := by
    rintro ⟨k, v⟩
    rw [← get?_eq_some_iff, h k, get?_eq_some_iff]
  have hnodup : ∀ t : Table α, t.entries.Nodup := by
    intro t
    refine t.ascending.imp fun {e e'} hlt heq => ?_
    rw [heq] at hlt
    exact String.lt_irrefl _ hlt
  have hperm := (List.perm_ext_iff_of_nodup (hnodup t) (hnodup t')).2 hmem
  have hentries : t.entries = t'.entries := by
    refine hperm.eq_of_pairwise ?_ t.ascending t'.ascending
    intro a b _ _ hab hba
    exact absurd (String.lt_trans hab hba) (String.lt_irrefl _)
  cases t
  cases t'
  cases hentries
  rfl

/-- An entry that comes after all others is put at the end. -/
theorem insertEntry_of_forall_lt {k : String} {v : α} {l : List (String × α)}
    (h : ∀ e ∈ l, e.1 < k) : insertEntry k v l = l ++ [(k, v)] := by
  induction l with
  | nil => rfl
  | cons e rest ih =>
    rw [List.forall_mem_cons] at h
    have hnot : ¬ k < e.1 := fun hk => String.lt_irrefl _ (String.lt_trans hk h.1)
    rw [insertEntry, if_neg hnot, if_pos h.1, ih h.2]
    rfl

theorem entries_foldl_insert (l : List (String × α)) (t : Table α)
    (h : (t.entries ++ l).Pairwise fun a b => a.1 < b.1) :
    (l.foldl (fun t e => t.insert e.1 e.2) t).entries = t.entries ++ l := by
  induction l generalizing t with
  | nil => simp
  | cons e l ih =>
    have hput : (t.insert e.1 e.2).entries = t.entries ++ [e] :=
      insertEntry_of_forall_lt fun e' he' =>
        (List.pairwise_append.1 h).2.2 e' he' e List.mem_cons_self
    rw [List.foldl_cons, ih, hput, List.append_assoc, List.singleton_append]
    rwa [hput, List.append_assoc, List.singleton_append]

/-- Of several entries with one key the last is read. -/
theorem get?_foldl_insert (l : List (String × α)) (t : Table α) (k : String) :
    (l.foldl (fun t e => t.insert e.1 e.2) t).get? k
      = ((l.reverse.find? (·.1 = k)).map (·.2)).or (t.get? k) := by
  induction l generalizing t with
  | nil => rfl
  | cons e l ih =>
    rw [List.foldl_cons, ih, get?_insert, List.reverse_cons, List.find?_append]
    cases l.reverse.find? (·.1 = k) with
    | some e' => rfl
    | none => by_cases h : k = e.1 <;> simp [h, eq_comm (a := e.1)]

theorem get?_ofList (l : List (String × α)) (k : String) :
    (ofList l).get? k = (l.reverse.find? (·.1 = k)).map (·.2) := by
  rw [ofList, get?_foldl_insert, get?_empty, Option.or_none]

/-- **A table is what its entries make.** -/
theorem ofList_entries (t : Table α) : ofList t.entries = t := by
  have h : (ofList t.entries).entries = t.entries :=
    entries_foldl_insert t.entries empty t.ascending
  generalize ofList t.entries = other at h
  cases other
  cases t
  cases h
  rfl

end Table

end Courier
