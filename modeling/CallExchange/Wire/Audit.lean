import CallExchange.Audit.Record
import CallExchange.Wire.Basic

/-!
# Audit events and records as structured data

Events are written with every member, absent values as null. Records leave absent columns out.
-/

namespace CallExchange

namespace OverrideEvent

/-- An applied override as data. -/
def toJson (e : OverrideEvent) : Json :=
  .object [
    ("workspace_id", .string e.workspaceId),
    ("campaign_id", Json.orNull .string e.campaignId),
    ("override_id", Json.orNull .string e.overrideId),
    ("provider_call_id", .string e.providerCallId),
    ("from", .string e.caller),
    ("to", .string e.dialed),
    ("client_ip", Json.orNull (fun a => .string a.write) e.clientIp),
    ("actor_user_id", Json.orNull .string e.actorUserId),
    ("connect_to", .string e.connectTo),
    ("applied_at", .ofInstant e.appliedAt),
    ("expires_at", .ofInstant e.expiresAt),
    ("metadata", Json.orNull (fun j => j) e.metadata)]

end OverrideEvent

namespace AdminActionEvent

/-- An administrative action that is reported, as data. -/
def toJson (e : AdminActionEvent) : Json :=
  .object [
    ("workspace_id", .string e.workspaceId),
    ("wallet_id", .string e.walletId),
    ("admin_user_id", .string e.adminUserId),
    ("admin_role", .string e.adminRole.name),
    ("action", .string e.action.name),
    ("amount_minor", Json.orNull Json.ofAmount e.amount),
    ("currency", Json.orNull .string e.currency),
    ("reason", .string e.reason),
    ("ledger_entry_id", Json.orNull Json.ofUuid e.ledgerEntryId),
    ("occurred_at", .ofInstant e.occurredAt)]

end AdminActionEvent

/-- An event as data, under the name of its kind. -/
def AuditEvent.toJson : AuditEvent → Json
  | .overrideApplied e => .object [("override_applied", e.toJson)]
  | .adminAction e => .object [("admin_action", e.toJson)]

/-- The name of a kind of record. -/
def AuditKind.name : AuditKind → String
  | .adminAction => "admin_action"
  | .routingOverride => "routing_override"

/-- A record as data. -/
def AuditRecord.toJson (r : AuditRecord) : Json :=
  .object <| [
    ("id", .ofUuid r.id),
    ("workspace_id", .string r.workspaceId),
    ("kind", .string r.kind.name)] ++
    Json.unlessAbsent "actor_user_id" .string r.actorUserId ++
    Json.unlessAbsent "actor_role" (fun role => .string role.name) r.actorRole ++
    Json.unlessAbsent "ip_address" (fun a => .string a.write) r.ipAddress ++
    Json.unlessAbsent "wallet_id" .string r.walletId ++
    Json.unlessAbsent "campaign_id" .string r.campaignId ++
    Json.unlessAbsent "call_id" .string r.callId ++
    Json.unlessAbsent "override_id" .string r.overrideId ++ [
    ("message", .string r.message),
    ("metadata", r.metadata),
    ("created_at", .ofInstant r.createdAt)]

end CallExchange
