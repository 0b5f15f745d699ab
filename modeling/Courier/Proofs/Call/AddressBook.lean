import Courier.Proofs.Call.Address
import Mathlib.Data.Finset.Card
import Mathlib.Data.Finset.Dedup

/-!
# What a book of addresses holds

An address is asked for by a host and a path, and a book keeps it under the host and the
**rest** of the path, what is left of it without one slash at its beginning
(`Courier.IsRestOf`). Nothing of the book can be seen in what it gives: whatever was asked before,
the address is the one that an empty book gives, and it is put together from the schema, the host
and the rest (`Courier.AddressBook.IsSound.get_fst`).

What can be seen of it is its size. A book **records** what was asked
(`Courier.AddressBook.Records`) if it has one entry for each host and rest among that, and no
others. The texts of two entries may well be the same, as for the path `b/c` on the host `a` and
the path `c` on the host `a/b`; their keys are not.
-/

namespace Courier

/-! ### The rest of a path -/

/-- **The rest of a path**: what is left without one slash at its beginning. -/
def IsRestOf (rest path : String) : Prop :=
  path = "/" ++ rest ∨ path.toList.head? ≠ some '/' ∧ rest = path

theorem isRestOf_callPath (path : String) : IsRestOf (callPath path) path := by
  by_cases h : path.toList.head? = some '/'
  · obtain ⟨cs, hcs⟩ := List.head?_eq_some_iff.1 h
    have hpath : path = "/" ++ String.ofList cs := String.toList_inj.1 (by simp [hcs])
    rw [hpath, callPath_slash]
    exact Or.inl rfl
  · exact Or.inr ⟨h, callPath_of_head?_ne h⟩

/-- A path has one rest. -/
theorem isRestOf_iff {rest path : String} : IsRestOf rest path ↔ rest = callPath path := by
  constructor
  · rintro (rfl | ⟨h, rfl⟩)
    · exact (callPath_slash rest).symm
    · exact (callPath_of_head?_ne h).symm
  · rintro rfl
    exact isRestOf_callPath path

namespace AddressBook

/-! ### Addresses asked for in turn -/

/-- The key of a path on a host. -/
def keyOf (e : String × String) : String × String := (e.1, callPath e.2)

/-- The addresses of paths on hosts that are asked for in turn, and the book after them. -/
def getAll (b : AddressBook) : List (String × String) → List String × AddressBook
  | [] => ([], b)
  | e :: asked =>
    let first := b.get e.1 e.2
    let others := first.2.getAll asked
    (first.1 :: others.1, others.2)

theorem getAll_snd (b : AddressBook) (asked : List (String × String)) :
    (b.getAll asked).2 = b.after asked := by
  induction asked generalizing b with
  | nil => rfl
  | cons e asked ih => exact ih (b.get e.1 e.2).2

/-- **Every address is the one that is put together without the book**, in every run. -/
theorem IsSound.getAll_fst {b : AddressBook} (h : b.IsSound) (asked : List (String × String)) :
    (b.getAll asked).1 = asked.map fun e => callAddress b.schema e.1 e.2 := by
  induction asked generalizing b with
  | nil => rfl
  | cons e asked ih =>
    have hrest := ih (h.get e.1 e.2)
    rw [schema_get] at hrest
    rw [getAll, List.map_cons, h.get_fst, hrest]

/-! ### The entries -/

/-- **A book records what was asked**: it has one entry for each host and rest of a path among
that, the address that they make, and no other entry. -/
structure Records (b : AddressBook) (asked : List (String × String)) : Prop where
  /-- No two entries have one key. -/
  nodup : (b.known.map (·.1)).Nodup
  mem_iff : ∀ k address, (k, address) ∈ b.known ↔
    k ∈ asked.map keyOf ∧ address = b.schema ++ "://" ++ k.1 ++ "/" ++ k.2

theorem records_empty (schema : String) : (empty schema).Records [] where
  nodup := List.nodup_nil
  mem_iff k address := by simp [empty]

/-- The keys of a record are those of what was asked. -/
theorem Records.mem_keys_iff {b : AddressBook} {asked : List (String × String)}
    (h : b.Records asked) (k : String × String) :
    k ∈ b.known.map (·.1) ↔ k ∈ asked.map keyOf := by
  simp [h.mem_iff]

/-- **One more address** is recorded. -/
theorem Records.get {b : AddressBook} {asked : List (String × String)} (h : b.Records asked)
    (e : String × String) : (b.get e.1 e.2).2.Records (asked ++ [e]) := by
  have hkeys (k : String × String) :
      k ∈ (asked ++ [e]).map keyOf ↔ k ∈ asked.map keyOf ∨ k = keyOf e := by simp
  unfold AddressBook.get
  dsimp only
  split
  next address hknown =>
    -- the book has the address, so its key was asked for before
    have hmem : keyOf e ∈ asked.map keyOf := by
      rw [← h.mem_keys_iff]
      obtain ⟨front, back, hsplit, -⟩ := List.lookup_eq_some_iff.1 hknown
      simp [hsplit, keyOf]
    refine ⟨h.nodup, fun k address => ?_⟩
    rw [h.mem_iff, hkeys, or_iff_left_of_imp fun hk => hk ▸ hmem]
  next hknown =>
    have hnew : keyOf e ∉ b.known.map (·.1) := by
      intro hmem
      obtain ⟨entry, hentry, hkey⟩ := List.mem_map.1 hmem
      exact bne_iff_ne.1 (List.lookup_eq_none_iff.1 hknown entry hentry) hkey.symm
    refine ⟨List.nodup_cons.2 ⟨hnew, h.nodup⟩, fun k address => ?_⟩
    have hmade : k = keyOf e → (address = callAddress b.schema e.1 e.2 ↔
        address = b.schema ++ "://" ++ k.1 ++ "/" ++ k.2) := fun hk => hk ▸ Iff.rfl
    rw [List.mem_cons, h.mem_iff, hkeys, Prod.mk.injEq, or_and_right, or_comm]
    exact or_congr_right (and_congr_right hmade)

/-- **A run records what it asks.** -/
theorem Records.after {b : AddressBook} {before : List (String × String)} (h : b.Records before)
    (asked : List (String × String)) : (b.after asked).Records (before ++ asked) := by
  induction asked generalizing b before with
  | nil => rwa [List.append_nil]
  | cons e asked ih =>
    have hrest := ih (h.get e)
    rwa [List.append_assoc, List.singleton_append] at hrest

/-- The size of a record is the number of different keys that were asked for. -/
theorem Records.size_eq {b : AddressBook} {asked : List (String × String)} (h : b.Records asked) :
    b.size = (asked.map keyOf).toFinset.card := by
  have hset : (b.known.map (·.1)).toFinset = (asked.map keyOf).toFinset := by
    ext k
    rw [List.mem_toFinset, List.mem_toFinset, h.mem_keys_iff]
  rw [← hset, List.toFinset_card_of_nodup h.nodup, List.length_map]
  rfl

/-- A record is empty if nothing was asked. -/
theorem Records.isEmpty_iff {b : AddressBook} {asked : List (String × String)}
    (h : b.Records asked) : b.isEmpty = true ↔ asked = [] := by
  have hkeys : b.known.map (·.1) = [] ↔ asked.map keyOf = [] := by
    simp only [List.eq_nil_iff_forall_not_mem, h.mem_keys_iff]
  rwa [List.map_eq_nil_iff, List.map_eq_nil_iff, ← List.isEmpty_iff] at hkeys

/-- **A book cannot be seen in what it gives.** Whatever paths on whatever hosts are asked for in
turn, each address is the one that an empty book gives, made of the schema, the host and the rest
of the path; and the book after them has one entry for each host and rest that was asked for. -/
theorem getAll_eq_and_records (schema : String) (asked : List (String × String)) :
    let run := (empty schema).getAll asked
    (run.1 = asked.map fun e => ((empty schema).get e.1 e.2).1) ∧
      (run.1 = asked.map fun e => schema ++ "://" ++ e.1 ++ "/" ++ callPath e.2) ∧
      (∀ path rest, IsRestOf rest path ↔ rest = callPath path) ∧
      run.2.size = (asked.map keyOf).toFinset.card ∧
      (run.2.isEmpty = true ↔ asked = []) ∧ run.2.Records asked := by
  intro run
  have hsound := isSound_empty schema
  have hanswers : run.1 = asked.map fun e => callAddress schema e.1 e.2 := hsound.getAll_fst asked
  have hrecords : run.2.Records asked := by
    have hafter := (records_empty schema).after asked
    rwa [← getAll_snd, List.nil_append] at hafter
  refine ⟨?_, hanswers, fun path rest => isRestOf_iff, hrecords.size_eq, hrecords.isEmpty_iff,
    hrecords⟩
  rw [hanswers]
  exact List.map_congr_left fun e _ => (hsound.get_fst e.1 e.2).symm

/-- Two entries with one text. -/
example : ((empty "http").getAll [("a", "b/c"), ("a/b", "/c"), ("a", "/b/c")]).2.known
    = [(("a/b", "c"), "http://a/b/c"), (("a", "b/c"), "http://a/b/c")] := by decide

end AddressBook

end Courier
