import Courier.Number.Scalar
import Courier.Table
import Courier.Text.Quoted

/-!
# Which hosts serve which path

A host map gives for every path the hosts that serve it, **best first**. The path `*`
stands for all paths without a list of their own; it always has a host, and this is
part of the type, so `HostMap.host` needs no error.

| definition | what it says |
|---|---|
| `HostMap.ofPaths`, `HostMap.ofHosts` | the two ways to make one, and how they fail |
| `HostMap.host` | the best host of a path |
| `HostMap.distinct` | every host once, in the order of the paths |
| `HostMap.ranked` | every list in descending order of scores |
| `HostMap.sameHosts` | the same paths with the same hosts |
-/

namespace Courier

/-- What a scoring pass says of one host. -/
structure Score (α : Type) where
  host : String
  value : α
deriving DecidableEq, Inhabited

/-- Why there is no host map. -/
inductive HostMapError where
  | noHosts
  | noDefaultPath
deriving DecidableEq

/-- The message of an error. -/
def HostMapError.message : HostMapError → String
  | .noHosts => "default hosts are empty"
  | .noDefaultPath => "host config has no '*' entry or it is empty"

/-- The path that stands for all paths without hosts of their own. -/
def defaultPath : String := "*"

/-- The hosts of every path, best first. -/
structure HostMap where
  paths : Table (List String)
  served : (paths.get? defaultPath).any (!·.isEmpty) = true

namespace HostMap

instance : DecidableEq HostMap := fun a b =>
  if h : a.paths = b.paths then isTrue (by cases a; cases b; cases h; rfl)
  else isFalse fun e => h (e ▸ rfl)

/-- A host map with these paths. -/
def ofPaths (paths : Table (List String)) : Except HostMapError HostMap :=
  if h : (paths.get? defaultPath).any (!·.isEmpty) = true then .ok ⟨paths, h⟩
  else .error .noDefaultPath

/-- A host map with the same hosts for all paths. -/
def ofHosts (hosts : List String) : Except HostMapError HostMap :=
  if hosts.isEmpty then .error .noHosts else ofPaths (Table.empty.insert defaultPath hosts)

/-- The hosts for paths without a list of their own. -/
def defaultHosts (m : HostMap) : List String := (m.paths.get? defaultPath).getD []

/-- The best host of a path; the best default host if the path has none. -/
def host (m : HostMap) (path : String) : String :=
  match m.paths.get? path with
  | some (h :: _) => h
  | _ => m.defaultHosts.headD ""

/-- Every host of every path, each once, in the order in which they are first met. -/
def distinct (m : HostMap) : List String := m.paths.values.flatten.eraseDups

section Ranking

variable {α : Type} [Scalar α]

/-- The score of a host: the last one given for it, zero if there is none. -/
def scoreOf (scores : List (Score α)) (host : String) : α :=
  match scores.reverse.find? (·.host = host) with
  | some s => s.value
  | none => Scalar.ofNat 0

/-- Hosts in descending order of their scores. Hosts with equal scores keep their
order. -/
def rankHosts (scores : List (Score α)) (hosts : List String) : List String :=
  hosts.mergeSort fun a b => Scalar.sortsBefore (scoreOf scores b) (scoreOf scores a)

end Ranking

/-- The lists of all paths, each put in another order. -/
def reorder (m : HostMap) (f : List String → List String)
    (hf : ∀ l, (f l).isEmpty = l.isEmpty) : HostMap where
  paths := m.paths.map f
  served := by
    have h := m.served
    rw [Table.get?_map]
    cases hx : m.paths.get? defaultPath <;> simp_all

theorem isEmpty_rankHosts {α : Type} [Scalar α] (scores : List (Score α)) (hosts : List String) :
    (rankHosts scores hosts).isEmpty = hosts.isEmpty := by
  have h : (rankHosts scores hosts).length = hosts.length := List.length_mergeSort ..
  cases hosts <;> cases hr : rankHosts scores _ <;> simp_all

/-- Every list in descending order of scores. No host is dropped and none is added. -/
def ranked {α : Type} [Scalar α] (m : HostMap) (scores : List (Score α)) : HostMap :=
  m.reorder (rankHosts scores) (isEmpty_rankHosts scores)

/-- Whether two host maps have the same paths, and for each path lists of the same
length, the second with hosts of the first only. -/
def sameHosts (m other : HostMap) : Bool :=
  m.paths.entries.length = other.paths.entries.length
    && m.paths.entries.all fun e =>
      match other.paths.get? e.1 with
      | some hosts => hosts.length = e.2.length && hosts.all (e.2.contains ·)
      | none => false

/-- A host map as a diagnostic shows it. -/
def shown (m : HostMap) : String :=
  Quoted.record "HostConfig" [("paths",
    Quoted.table (m.paths.entries.map fun e => (e.1, Quoted.list (e.2.map Quoted.text))))]

end HostMap

end Courier
