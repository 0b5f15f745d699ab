import Courier.Call.Status
import Courier.Client.Shown
import Courier.Main
import Courier.Pacing.Stop
import Courier.Settings.LogFilter
import Courier.Number.Fraction
import Courier.Proofs.Distinct
import Courier.Proofs.Hosts.Ranking
import Courier.Proofs.Hosts.TrackRecord
import Courier.Proofs.Hosts.PingedDirectory
import Courier.Hosts.SharedDirectory
import Courier.Proofs.Hosts.SharedDirectory
import Courier.Proofs.Signing.Canonical
import Courier.Proofs.Headers
import Courier.Proofs.Signing.SignedFields
import Courier.Proofs.Signing.Keyed
import Courier.Proofs.Signing.Verification
import Courier.Proofs.Hosts.Answers
import Courier.Proofs.Signing.Alike
import Courier.Proofs.Hosts.History
import Courier.Proofs.Hosts.Overtaking
import Courier.Proofs.Hosts.Shutting
import Courier.Proofs.Call.Address
import Courier.Proofs.Call.Accounting
import Courier.Proofs.Signing.Frame
import Courier.Proofs.Call.Fields
import Courier.Proofs.Telemetry.Grouping
import Courier.Proofs.Telemetry.Traffic
import Courier.Proofs.Telemetry.Delivery
import Courier.Proofs.Call.Queries
import Courier.Proofs.Settings.Validation
import Courier.Proofs.Client.Building
import Courier.Proofs.Hosts.Comparison
import Courier.Proofs.Json.Reading
import Courier.Proofs.Hosts.Provenance
import Courier.Proofs.Hosts.Stability
import Courier.Proofs.Signing.Again
import Courier.Proofs.Signing.Refusal
import Courier.Proofs.Signing.HostLine
import Courier.Proofs.Signing.PathCoding
import Courier.Proofs.Hosts.Attempts
import Courier.Proofs.Call.Precedence
import Courier.Proofs.Url.Literal
import Courier.Proofs.Hosts.ProjectAddress
import Courier.Proofs.Pacing.Waiting
import Courier.Proofs.Telemetry.Percentile
import Courier.Proofs.Telemetry.Lines
import Courier.Proofs.Call.Classification
import Courier.Proofs.Call.Compression
import Courier.Proofs.Call.AddressBook
import Courier.Proofs.Telemetry.Escaping
import Courier.Proofs.Hosts.Pong
import Courier.Proofs.Signing.Shown
