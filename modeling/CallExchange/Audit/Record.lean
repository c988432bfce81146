import CallExchange.Audit.Error
import CallExchange.Call
import CallExchange.Override.Basic
import CallExchange.Wire.Basic

/-!
# Audit events and records

Two things are audited: an override that was applied to a call, and an administrative action on a
wallet. A record flattens an event into columns, with what has no column of its own in free-form
data.

## Main definitions

* `OverrideEvent`, `AdminActionEvent`, `AuditEvent` — what is audited
* `AuditRecord` — a row of the audit trail
* `AuditRecord.ofEvent` — the row of an event
-/

namespace CallExchange

/-- An override was applied to a call. -/
structure OverrideEvent where
  workspaceId : String
  campaignId : Option String
  overrideId : Option String
  providerCallId : String
  caller : String
  dialed : String
  clientIp : Option Address
  actorUserId : Option String
  connectTo : String
  appliedAt : Instant
  expiresAt : Instant
  metadata : Option Json
  deriving Repr

/-- An administrator acted on a wallet. -/
structure AdminActionEvent where
  workspaceId : String
  walletId : String
  adminUserId : String
  adminRole : Role
  action : AdminActionType
  amount : Option Minor
  currency : Option String
  reason : String
  ledgerEntryId : Option Uuid
  occurredAt : Instant
  deriving DecidableEq, Repr, Inhabited

/-- The event of a recorded action. -/
def AdminAction.toEvent (a : AdminAction) : AdminActionEvent where
  workspaceId := a.workspaceId
  walletId := a.walletId
  adminUserId := a.adminUserId
  adminRole := a.adminRole
  action := a.action
  amount := a.amount
  currency := a.currency
  reason := a.reason
  ledgerEntryId := a.relatedLedgerId
  occurredAt := a.createdAt

/-- What is audited. -/
inductive AuditEvent where
  | overrideApplied (e : OverrideEvent)
  | adminAction (e : AdminActionEvent)
  deriving Repr

/-- The workspace of an event. -/
def AuditEvent.workspaceId : AuditEvent → String
  | .overrideApplied e => e.workspaceId
  | .adminAction e => e.workspaceId

/-- What a record is about. -/
inductive AuditKind where
  | adminAction
  | routingOverride
  deriving DecidableEq, Repr, Inhabited

/-- A row of the audit trail. -/
structure AuditRecord where
  id : Uuid
  workspaceId : String
  kind : AuditKind
  actorUserId : Option String
  /-- The real role, hidden or not. -/
  actorRole : Option Role
  ipAddress : Option Address
  walletId : Option String
  campaignId : Option String
  callId : Option String
  overrideId : Option String
  message : String
  metadata : Json
  createdAt : Instant
  deriving Repr, Inhabited

namespace AuditRecord

/-- What a record says about an override besides its columns. -/
def overrideData (e : OverrideEvent) : Json :=
  .object [
    ("applied_at", .ofInstant e.appliedAt),
    ("connect_to", .string e.connectTo),
    ("expires_at", .ofInstant e.expiresAt),
    ("from", .string e.caller),
    ("override", e.metadata.getD .null),
    ("to", .string e.dialed)]

/-- What a record says about an administrative action besides its columns. -/
def actionData (e : AdminActionEvent) : Json :=
  .object [
    ("action", .string e.action.name),
    ("amount_minor", Json.orNull Json.ofAmount e.amount),
    ("currency", Json.orNull .string e.currency),
    ("ledger_entry_id", Json.orNull Json.ofUuid e.ledgerEntryId),
    ("occurred_at", .ofInstant e.occurredAt)]

/-- The row of an event. An empty call identifier is no identifier. -/
def ofEvent (event : AuditEvent) (id : Uuid) (createdAt : Instant) : AuditRecord :=
  match event with
  | .overrideApplied e => {
      id
      workspaceId := e.workspaceId
      kind := .routingOverride
      actorUserId := e.actorUserId
      actorRole := none
      ipAddress := e.clientIp
      walletId := none
      campaignId := e.campaignId
      callId := if e.providerCallId = "" then none else some e.providerCallId
      overrideId := e.overrideId
      message := "routing override applied"
      metadata := overrideData e
      createdAt }
  | .adminAction e => {
      id
      workspaceId := e.workspaceId
      kind := .adminAction
      actorUserId := some e.adminUserId
      actorRole := some e.adminRole
      ipAddress := none
      walletId := some e.walletId
      campaignId := none
      callId := none
      overrideId := none
      message := e.reason
      metadata := actionData e
      createdAt }

end AuditRecord

end CallExchange
