import Courier.Settings.Basic
import Courier.Signing.Authentication

/-!
# Settings step by step

The settings of a client can be put together step by step: a field is replaced by an update of
the record, and the steps that say more than one thing have functions of their own. Single
headers are added to those there are, the name of a region can be registered only once, and
a token of the tenant also says how requests are signed.

`Settings.authentication` is what the settings sign with.
-/

namespace Courier.Settings

/-- One more region. -/
def withRegion (s : Settings) (name : String) (r : Region) : Except RegionError Settings :=
  (s.regions.register name r).map fun t => { s with regions := t }

/-- One more header. -/
def withHeader (s : Settings) (name value : String) : Settings :=
  { s with headers := s.headers.insert name value }

/-- More headers. -/
def withHeaders (s : Settings) (l : List (String × String)) : Settings :=
  l.foldl (fun s h => s.withHeader h.1 h.2) s

/-- Requests are signed with the token of the tenant. -/
def withTenantToken (s : Settings) (token : String) : Settings :=
  { s with auth := { s.auth with useAirAuth := true, airAuthToken := some token } }

/-- **What the settings sign with.** An empty session token counts as none. -/
def authentication (s : Settings) : Authentication :=
  if s.auth.useAirAuth then .tenant ⟨s.auth.airAuthToken.getD "", s.tenantId⟩
  else
    .keyed {
      accessKey := s.auth.accessKey.getD ""
      secretKey := s.auth.secretKey.getD ""
      region := s.credentialRegion
      service := s.auth.service
      sessionToken := s.auth.sessionToken.filter (· ≠ "") }

end Courier.Settings
