import Courier.Client.Basic

/-!
# Clients in diagnostics

A client is shown with how it calls and with the hosts it uses. Nothing of its secrets is
shown. A time is shown in the largest of its units that leaves no zero in front, without zeros
at the end.
-/

namespace Courier

/-- A number of thousandths as a decimal without zeros at its end. -/
def thousandths (n : Nat) : String :=
  let digits := Nat.toDigits 10 (1000 + n % 1000)
  let fraction := ((digits.drop 1).reverse.dropWhile (· = '0')).reverse
  toString (n / 1000) ++ (if fraction = [] then "" else "." ++ String.ofList fraction)

/-- A time in milliseconds as a diagnostic shows it. -/
def durationText (ms : Nat) : String :=
  if ms = 0 then "0ns" else if ms < 1000 then toString ms ++ "ms" else thousandths ms ++ "s"

/-- How calls are made, as a diagnostic shows it. -/
def Caller.shown (c : Caller) : String :=
  Quoted.record "HttpCaller" [("tenant_id", Quoted.text c.fields.tenantId),
    ("project_id", Quoted.text c.fields.projectId),
    ("auth", Quoted.text c.authentication.mode),
    ("default_timeout", durationText c.timeout)]

/-- A client as a diagnostic shows it. -/
def Client.shown {m : Type → Type} [Monad m] [Outside m] (c : Client m) : String :=
  Quoted.record "Client" [("caller", c.caller.shown), ("manager", c.upkeep.shown)]

/-- A sink as a diagnostic shows it. -/
def Sink.shown {α : Type} (s : Sink α) : String :=
  Quoted.record "MetricsSink" [("enabled", Quoted.bool s.isEnabled),
    ("dropped", toString s.dropped)]

end Courier
