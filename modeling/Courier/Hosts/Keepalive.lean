import Courier.Hosts.Ping
import Courier.Number.Binary64
import Courier.Telemetry.Tag

/-!
# Keeping connections open

An unused connection is closed after a while. To keep the connections of a client open all
its hosts are pinged now and then, and each ping is counted.
-/

namespace Courier.Prober

/-- The sample that counts a ping. -/
def heartbeat (p : Prober) (host : String) : Emission Binary64 :=
  .metric ⟨.counter, Series.heartbeatCount, Scalar.ofNat 1,
    ["from:http_caller", Tag.render "project_id" p.projectId, Tag.render "host" host]⟩

variable {m : Type → Type} [Monad m] [Outside m]

/-- Ping hosts in turn: how many are healthy, and what there is to report. -/
def beat (p : Prober) : List String → m (Nat × List (Emission Binary64))
  | [] => pure (0, [])
  | host :: rest => do
    let r ← p.ping host
    let (healthy, emissions) ← p.beat rest
    return (if r.isHealthy then healthy + 1 else healthy,
      p.heartbeat host :: .log r.line :: emissions)

end Courier.Prober
