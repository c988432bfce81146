import CallExchange.Address
import CallExchange.Time.Instant

/-!
# Inbound calls

A provider announces a call with its own identifier and the two numbers. What the edge knows about
the request besides (the client's address, the user behind it) travels beside the call. The provider
gets an answer: connect to a target, reject or hang up, and never a reason.

## Main definitions

* `InboundCall`, `CallContext` — what comes in
* `CallAction`, `CallAnswer` — what goes out
-/

namespace CallExchange

/-- A call that a provider announces. -/
structure InboundCall where
  workspaceId : String
  /-- The provider's identifier of the call. -/
  providerCallId : String
  caller : String
  dialed : String
  occurredAt : Option Instant
  /-- What the provider sent, kept for debugging. -/
  rawPayload : Option String
  deriving DecidableEq, Repr, Inhabited

/-- What the edge knows about a request. -/
structure CallContext where
  clientIp : Option Address
  actorUserId : Option String
  deriving DecidableEq, Repr, Inhabited

/-- What a provider is told to do with a call. -/
inductive CallAction where
  | reject
  | connect
  | hangup
  deriving DecidableEq, Repr, Inhabited

/-- The name of an action. -/
def CallAction.name : CallAction → String
  | .reject => "reject"
  | .connect => "connect"
  | .hangup => "hangup"

/-- The answer to a provider. -/
structure CallAnswer where
  workspaceId : String
  /-- The identifier of the call in the exchange, when it has one. -/
  callId : Option String
  action : CallAction
  connectTo : Option String
  deriving DecidableEq, Repr, Inhabited

end CallExchange
