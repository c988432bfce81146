import CallExchange.Exchange.Step
import CallExchange.Ledger.Lemmas
import CallExchange.Json.Reader
import CallExchange.Json.Writer
import CallExchange.Settings.Environment
import CallExchange.Settings.File
import CallExchange.Wire.Audit
import CallExchange.Wire.Call
import CallExchange.Wire.Format
import CallExchange.Wire.Wallet
import CallExchange.Proofs.Ledger.Posted
import CallExchange.Proofs.Ledger.Service
import CallExchange.Proofs.Ledger.Soundness
import CallExchange.Proofs.Exchange.Ledger
import CallExchange.Proofs.Ledger.Acknowledgement
import CallExchange.Proofs.Ledger.Growth
import CallExchange.Proofs.Ledger.History
import CallExchange.Proofs.Exchange.Replay
import CallExchange.Proofs.Exchange.Retry
import CallExchange.Proofs.Exchange.Requests
import CallExchange.Proofs.Ledger.Actions
import CallExchange.Proofs.Exchange.AdminEvents
import CallExchange.Proofs.Ledger.Renaming
import CallExchange.Proofs.Ledger.Mirror
import CallExchange.Proofs.Ledger.Isolation
import CallExchange.Proofs.Ledger.Locks
import CallExchange.Proofs.Ledger.Copies
import CallExchange.Proofs.Ledger.PrivateCopy
import CallExchange.Proofs.Ledger.Reconciliation
import CallExchange.Proofs.Ledger.Drift
import CallExchange.Proofs.Routing.Gate
import CallExchange.Proofs.Exchange.Isolation
import CallExchange.Proofs.Routing.Ends
import CallExchange.Proofs.Routing.Pick
import CallExchange.Proofs.Routing.Proportion
import CallExchange.Proofs.Routing.Faults
import CallExchange.Proofs.Routing.Overrides
import CallExchange.Proofs.Routing.Reasons
import CallExchange.Proofs.Routing.Targets
import CallExchange.Proofs.Routing.Bypass
import CallExchange.Proofs.Exchange.Authorisation
import CallExchange.Audit.Office
import CallExchange.Proofs.Audit.Office
import CallExchange.Proofs.Exchange.Provider
import CallExchange.Proofs.Exchange.Outcomes
import CallExchange.Proofs.Exchange.Vetting
import CallExchange.Proofs.Exchange.Questions
import CallExchange.Proofs.Random.Source
import CallExchange.Proofs.Exchange.Visits
import CallExchange.Proofs.Json.Grammar
import CallExchange.Proofs.Json.Reading
import CallExchange.Proofs.Json.Literals
import CallExchange.Proofs.Json.Data
import CallExchange.Proofs.Json.Roundtrip
import CallExchange.Proofs.Time.Rfc3339
import CallExchange.Proofs.Wire.Values
import CallExchange.Proofs.Wire.Faithful
import CallExchange.Proofs.Exchange.Purging
import CallExchange.Proofs.Exchange.Reuse
import CallExchange.Proofs.Audit.Record
import CallExchange.Proofs.Random.Words
import CallExchange.Proofs.Routing.Fairness
import CallExchange.Proofs.Settings.Levels
import CallExchange.Proofs.Settings.File
import CallExchange.Proofs.Settings.Agreement
import CallExchange.Proofs.Settings.Capacity
