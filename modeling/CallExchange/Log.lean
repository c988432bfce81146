import CallExchange.Audit.Error
import CallExchange.Call
import CallExchange.Text.Quoted
import CallExchange.Wallet

/-!
# Log events

What the exchange writes to its log, as causes with their data. The level, the message and the named
fields of an event follow from it.

## Main definitions

* `LogLevel` — from errors to traces
* `LogEvent` — the events, with `level`, `message` and `fields`
-/

namespace CallExchange

open Text

/-- How important an event is. -/
inductive LogLevel where
  | error
  | warn
  | info
  | debug
  | trace
  deriving DecidableEq, Repr, Inhabited

/-- The name of a level. -/
def LogLevel.name : LogLevel → String
  | .error => "ERROR"
  | .warn => "WARN"
  | .info => "INFO"
  | .debug => "DEBUG"
  | .trace => "TRACE"

/-- An event of the log. -/
inductive LogEvent where
  | posted (key : WalletKey) (entryId : Uuid) (entryType : EntryType) (amount balance : Minor)
  | keyReused (key : WalletKey) (idempotencyKey : String) (stored requested : Minor)
  | replayed (key : WalletKey) (entryId : Uuid)
  | drifted (key : WalletKey) (sum : Minor) (projected : Option Minor)
  | actionNotRecorded (workspaceId : String) (actionId : Uuid) (error : AuditError)
  | routed (workspaceId : String) (action : CallAction)
  | dispatchFailed (error : AuditError)
  | recordPersisted (recordId : Uuid) (workspaceId : String)
  | recordLost (recordId : Uuid) (workspaceId : String) (error : AuditError)
  | queueClosed
  deriving DecidableEq, Repr, Inhabited

namespace LogEvent

/-- How important the event is. -/
def level : LogEvent → LogLevel
  | .posted .. => .info
  | .keyReused .. | .drifted .. | .actionNotRecorded .. | .dispatchFailed .. => .warn
  | .replayed .. | .routed .. | .recordPersisted .. | .queueClosed => .debug
  | .recordLost .. => .error

/-- What the event says. -/
def message : LogEvent → String
  | .posted .. => "Posted ledger entry"
  | .keyReused .. => "Idempotency key reused with different parameters"
  | .replayed .. => "Replayed idempotent posting"
  | .drifted .. => "Wallet projection drifted from ledger"
  | .actionNotRecorded .. => "Failed to record admin action audit event"
  | .routed .. => "Routed inbound call"
  | .dispatchFailed .. => "Audit dispatch failed"
  | .recordPersisted .. => "Persisted audit record"
  | .recordLost .. => "Failed to persist audit record"
  | .queueClosed => "Audit queue closed"

/-- The kind of an entry as the log names it. -/
def entryTypeName : EntryType → String
  | .credit => "Credit"
  | .debit => "Debit"
  | .hold => "Hold"
  | .release => "Release"

/-- An optional amount as the log shows it. -/
def showAmount : Option Minor → String
  | none => "None"
  | some a => "Some(" ++ Decimal.showInt a.toInt ++ ")"

/-- The fields that tell which wallet an event is about. -/
def walletFields (key : WalletKey) : List (String × Json) :=
  [("workspace_id", .string key.workspaceId), ("wallet_id", .string key.walletId)]

/-- The named fields of an event. -/
def fields : LogEvent → List (String × Json)
  | .posted key entryId entryType amount balance =>
    walletFields key ++
      [("entry_id", .string entryId.write), ("entry_type", .string (entryTypeName entryType)),
        ("amount_minor", .int amount.toInt), ("balance_minor", .int balance.toInt)]
  | .keyReused key idempotencyKey stored requested =>
    walletFields key ++
      [("idempotency_key", .string idempotencyKey), ("stored_amount_minor", .int stored.toInt),
        ("requested_amount_minor", .int requested.toInt)]
  | .replayed key entryId => walletFields key ++ [("entry_id", .string entryId.write)]
  | .drifted key sum projected =>
    walletFields key ++
      [("ledger_sum_minor", .int sum.toInt), ("projected_minor", .string (showAmount projected))]
  | .actionNotRecorded workspaceId actionId error =>
    [("workspace_id", .string workspaceId), ("action_id", .string actionId.write),
      ("error", .string error.message)]
  | .routed workspaceId action =>
    [("workspace_id", .string workspaceId), ("action", .string action.name)]
  | .dispatchFailed error => [("error", .string error.message)]
  | .recordPersisted recordId workspaceId =>
    [("record_id", .string recordId.write), ("workspace_id", .string workspaceId)]
  | .recordLost recordId workspaceId error =>
    [("record_id", .string recordId.write), ("workspace_id", .string workspaceId),
      ("error", .string error.message)]
  | .queueClosed => []

end LogEvent

end CallExchange
