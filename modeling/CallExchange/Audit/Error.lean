/-!
# What can go wrong with the audit trail

## Main definitions

* `AuditError` — the causes, and `AuditError.message` with their words
-/

namespace CallExchange

/-- What can go wrong with the audit trail. -/
inductive AuditError where
  | queueFull
  /-- Nobody takes events from the queue any more. -/
  | closed
  | invalid (words : String)
  | repository (words : String)
  deriving DecidableEq, Repr, Inhabited

/-- The message of an error. -/
def AuditError.message : AuditError → String
  | .queueFull => "audit queue is full"
  | .closed => "audit worker has shut down"
  | .invalid words => "invalid audit event: " ++ words
  | .repository words => "audit repository failed: " ++ words

end CallExchange
