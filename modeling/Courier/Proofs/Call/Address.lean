import Courier.Call.Address

/-!
# A slash at the beginning of a path

The address of a call is put together from the schema, the best host of the path, and the path
without one slash at its beginning. The book of addresses gives the same text, whatever was
asked before (`Courier.AddressBook.IsSound.get_fst`).

A path with the slash and the same path without it have the same **rest**, so their addresses
differ in the host at most. But a host is looked up by the path **as it is given**: the two are
different keys of the host map. So the slash is optional exactly as long as the map has the same
best host for both (`Courier.AddressBook.get_slash_iff`), and for every path there is a map for
which it is not.
-/

namespace Courier

/-- One slash is taken off. -/
theorem callPath_slash (path : String) : callPath ("/" ++ path) = path := by
  simp [callPath]

theorem callPath_of_head?_ne {path : String} (h : path.toList.head? ≠ some '/') :
    callPath path = path := by
  unfold callPath
  split
  next rest hpath =>
    rw [hpath] at h
    exact absurd rfl h
  · rfl

/-- Addresses of paths with the same rest are the same exactly if the hosts are. -/
theorem callAddress_eq_iff (schema : String) {host host' path path' : String}
    (h : callPath path = callPath path') :
    callAddress schema host path = callAddress schema host' path' ↔ host = host' := by
  unfold callAddress
  rw [h, String.append_left_inj, String.append_left_inj, String.append_right_inj]

namespace HostMap

/-- A path without a list of its own has the best host of all paths. -/
theorem host_of_get?_none {m : HostMap} {path : String} (h : m.paths.get? path = none) :
    m.host path = m.defaultHosts.headD "" := by
  simp only [host, h]

/-- A host map with a host for all paths and another one for a path of its own. -/
def withOwn (path best own : String) (h : path ≠ defaultPath) : HostMap where
  paths := (Table.empty.insert defaultPath [best]).insert path [own]
  served := by
    rw [Table.get?_insert, if_neg (Ne.symm h), Table.get?_insert, if_pos rfl]
    rfl

theorem host_withOwn_self {path : String} (best own : String) (h : path ≠ defaultPath) :
    (withOwn path best own h).host path = own := by
  have hget : (withOwn path best own h).paths.get? path = some [own] := by
    rw [withOwn, Table.get?_insert, if_pos rfl]
  simp only [host, hget]

theorem host_withOwn_of_ne {path other : String} (best own : String) (h : path ≠ defaultPath)
    (hother : other ≠ path) : (withOwn path best own h).host other = best := by
  have hget (j : String) (hj : j ≠ path) : (withOwn path best own h).paths.get? j
      = if j = defaultPath then some [best] else none := by
    rw [withOwn, Table.get?_insert, if_neg hj, Table.get?_insert, Table.get?_empty]
  have hdefault : (withOwn path best own h).defaultHosts = [best] := by
    rw [defaultHosts, hget _ (Ne.symm h), if_pos rfl]
    rfl
  by_cases hstar : other = defaultPath
  · simp only [host, hget other hother, if_pos hstar]
  · rw [host_of_get?_none (by rw [hget other hother, if_neg hstar]), hdefault]
    rfl

end HostMap

namespace AddressBook

/-- Every address in a book is the one that would be put together now. -/
def IsSound (b : AddressBook) : Prop :=
  ∀ host path address, b.known.lookup (host, callPath path) = some address →
    address = callAddress b.schema host path

theorem isSound_empty (schema : String) : (empty schema).IsSound := by
  intro host path address h
  cases h

/-- **What a sound book gives is what is put together without it.** -/
theorem IsSound.get_fst {b : AddressBook} (h : b.IsSound) (host path : String) :
    (b.get host path).1 = callAddress b.schema host path := by
  simp only [get]
  split
  next address hknown => exact h host path address hknown
  · rfl

theorem schema_get (b : AddressBook) (host path : String) :
    (b.get host path).2.schema = b.schema := by
  simp only [get]
  split <;> rfl

theorem IsSound.get {b : AddressBook} (h : b.IsSound) (host path : String) :
    (b.get host path).2.IsSound := by
  intro host' path' address hknown
  rw [schema_get]
  simp only [AddressBook.get] at hknown
  split at hknown
  · exact h host' path' address hknown
  · rw [List.lookup_cons] at hknown
    split at hknown
    next hkey =>
      obtain ⟨rfl, hrest⟩ := Prod.mk.inj (eq_of_beq hkey)
      cases hknown
      exact (callAddress_eq_iff b.schema hrest.symm).2 rfl
    · exact h host' path' address hknown

/-- The book after the addresses of paths on hosts were asked for. -/
def after (b : AddressBook) (asked : List (String × String)) : AddressBook :=
  asked.foldl (fun b e => (b.get e.1 e.2).2) b

theorem IsSound.after {b : AddressBook} (h : b.IsSound) (asked : List (String × String)) :
    (b.after asked).IsSound := by
  induction asked generalizing b with
  | nil => exact h
  | cons e asked ih => exact ih (h.get e.1 e.2)

/-- **When the slash is optional.** Whatever addresses were asked for before, a path without a
slash at its beginning and the same path with one have the same address exactly if the host
map has the same best host for both texts. This holds as long as neither has a list of its
own, and for every path there is a map for which it does not hold. -/
theorem get_slash_iff (schema : String) (asked : List (String × String)) {path : String}
    (hpath : path.toList.head? ≠ some '/') :
    let b := (empty schema).after asked
    let address (m : HostMap) (text : String) := (b.get (m.host text) text).1
    (∀ m, address m path = address m ("/" ++ path) ↔ m.host path = m.host ("/" ++ path)) ∧
      (∀ m : HostMap, m.paths.get? path = none → m.paths.get? ("/" ++ path) = none →
        address m path = address m ("/" ++ path)) ∧
      ∃ m, address m path ≠ address m ("/" ++ path) := by
  intro b address
  have hsound : b.IsSound := (isSound_empty schema).after asked
  have hrest : callPath path = callPath ("/" ++ path) := by
    rw [callPath_slash, callPath_of_head?_ne hpath]
  have hiff (m : HostMap) :
      address m path = address m ("/" ++ path) ↔ m.host path = m.host ("/" ++ path) := by
    dsimp only [address]
    rw [hsound.get_fst, hsound.get_fst]
    exact callAddress_eq_iff b.schema hrest
  refine ⟨hiff, fun m hnone hnone' => ?_, ?_⟩
  · rw [hiff, HostMap.host_of_get?_none hnone, HostMap.host_of_get?_none hnone']
  · have hne : path ≠ "/" ++ path := by
      intro h
      rw [h] at hpath
      exact absurd (by simp) hpath
    have hstar : "/" ++ path ≠ defaultPath := by
      intro h
      exact absurd (congrArg (·.toList.head?) h) (by simp [defaultPath])
    refine ⟨.withOwn ("/" ++ path) "a" "b" hstar, fun h => ?_⟩
    rw [hiff, HostMap.host_withOwn_self, HostMap.host_withOwn_of_ne _ _ _ hne] at h
    exact absurd h (by decide)

/-- The list of a path does not serve the same path with a slash. -/
theorem get_slash_ne_of_own_list :
    let m : HostMap := .withOwn "Predict" "a" "c" (by decide)
    "Predict".toList.head? ≠ some '/' ∧
      ((empty "http").get (m.host "Predict") "Predict").1
        ≠ ((empty "http").get (m.host "/Predict") "/Predict").1 := by
  intro m
  have hpath : "Predict".toList.head? ≠ some '/' := by decide
  refine ⟨hpath, fun h => ?_⟩
  have hhost := ((get_slash_iff "http" [] hpath).1 m).1 h
  exact absurd hhost (by decide)

end AddressBook

end Courier
