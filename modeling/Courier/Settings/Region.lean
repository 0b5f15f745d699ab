import Courier.Table

/-!
# Regions

A table of regions gives the hosts of each region and the name under which requests to
it are signed. A name that is registered **stays** as it is: registering it again fails
(`Regions.register`), and the table does not change.

* `Regions.hosts` – the hosts of a region, none if it is not registered;
* `Regions.credentialRegion` – the name to sign with, the region itself unless its
  entry gives another.
-/

namespace Courier

/-- What is known of a region. -/
structure Region where
  hosts : List String
  credentialRegion : String
deriving DecidableEq, Inhabited

/-- Regions by their names. -/
abbrev Regions := Table Region

/-- Why a region cannot be registered. -/
inductive RegionError where
  | alreadyRegistered (name : String)
deriving DecidableEq

/-- The message of an error. -/
def RegionError.message : RegionError → String
  | .alreadyRegistered name => "region '" ++ name ++ "' is already registered"

namespace Regions

/-- One more region. -/
def register (t : Regions) (name : String) (r : Region) : Except RegionError Regions :=
  if t.contains name then .error (.alreadyRegistered name) else .ok (t.insert name r)

/-- The hosts of a region. -/
def hosts (t : Regions) (name : String) : List String :=
  match t.get? name with
  | some r => r.hosts
  | none => []

/-- The name under which requests to a region are signed. -/
def credentialRegion (t : Regions) (name : String) : String :=
  match t.get? name with
  | some r => if r.credentialRegion = "" then name else r.credentialRegion
  | none => name

end Regions

end Courier
