import Courier.Text.Quoted

/-!
# What a client signs with

* `Courier.Credential` – an access key, its secret, and the scope it is used in;
* `Courier.TenantKey` – the token that a tenant shares with the service.

Both can be shown in a diagnostic (`Credential.shown`, `TenantKey.shown`). A shown value
tells **whether** there is a session token, and nothing of any secret.
-/

namespace Courier

/-- An access key with its secret and its scope. -/
structure Credential where
  accessKey : String
  secretKey : String
  region : String
  service : String
  sessionToken : Option String
deriving DecidableEq, Inhabited

/-- A token shared with a tenant. -/
structure TenantKey where
  token : String
  tenantId : String
deriving DecidableEq, Inhabited

/-- What stands in place of a secret. -/
def hiddenSecret : String := Quoted.text "***"

/-- A credential as a diagnostic shows it. -/
def Credential.shown (c : Credential) : String :=
  Quoted.record "Credential" [
    ("access_key_id", Quoted.text c.accessKey),
    ("secret_key", hiddenSecret),
    ("region", Quoted.text c.region),
    ("service", Quoted.text c.service),
    ("session_token", if c.sessionToken.isSome then "Some(" ++ hiddenSecret ++ ")" else "None")]

/-- A tenant key as a diagnostic shows it. -/
def TenantKey.shown (k : TenantKey) : String :=
  Quoted.record "AirAuth" [("tenant_id", Quoted.text k.tenantId), ("token", hiddenSecret)]

end Courier
