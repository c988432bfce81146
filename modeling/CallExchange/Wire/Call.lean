import CallExchange.Call
import CallExchange.Campaign
import CallExchange.Decision
import CallExchange.Override.Basic
import CallExchange.Wire.Basic

/-!
# Calls, decisions and overrides as structured data

The records that routing consumes and produces, with the names and the order of their members.
-/

namespace CallExchange

open Node

/-- The action of a tree. -/
def CallAction.ofNode? (n : Node) : Option CallAction :=
  n.toChoice [.reject, .connect, .hangup] CallAction.name

namespace InboundCall

/-- The members of a call. -/
def memberNames : List String :=
  ["workspace_id", "provider_call_id", "from", "to", "occurred_at", "raw_payload"]

/-- A call as data. -/
def toJson (c : InboundCall) : Json :=
  .object <| [
    ("workspace_id", .string c.workspaceId),
    ("provider_call_id", .string c.providerCallId),
    ("from", .string c.caller),
    ("to", .string c.dialed),
    ("occurred_at", Json.orNull Json.ofInstant c.occurredAt)] ++
    Json.unlessAbsent "raw_payload" .string c.rawPayload

/-- The call of a tree. -/
def ofNode? (n : Node) : Option InboundCall := do
  let fs ← n.fields memberNames
  return {
    workspaceId := ← required toText "workspace_id" fs
    providerCallId := ← required toText "provider_call_id" fs
    caller := ← required toText "from" fs
    dialed := ← required toText "to" fs
    occurredAt := ← optional toInstant "occurred_at" fs
    rawPayload := ← optional toText "raw_payload" fs }

end InboundCall

namespace CallAnswer

/-- The members of an answer to a provider. -/
def memberNames : List String := ["workspace_id", "call_id", "action", "connect_to"]

/-- An answer to a provider as data. -/
def toJson (a : CallAnswer) : Json :=
  .object <| [
    ("workspace_id", .string a.workspaceId),
    ("call_id", Json.orNull .string a.callId),
    ("action", .string a.action.name)] ++
    Json.unlessAbsent "connect_to" .string a.connectTo

/-- The answer to a provider of a tree. -/
def ofNode? (n : Node) : Option CallAnswer := do
  let fs ← n.fields memberNames
  return {
    workspaceId := ← required toText "workspace_id" fs
    callId := ← optional toText "call_id" fs
    action := ← required CallAction.ofNode? "action" fs
    connectTo := ← optional toText "connect_to" fs }

end CallAnswer

namespace Override

/-- The members of an override. -/
def memberNames : List String :=
  ["workspace_id", "campaign_id", "override_id", "connect_to", "expires_at", "metadata"]

/-- An override as data. -/
def toJson (o : Override) : Json :=
  .object <| [
    ("workspace_id", .string o.workspaceId),
    ("campaign_id", Json.orNull .string o.campaignId),
    ("override_id", Json.orNull .string o.overrideId),
    ("connect_to", .string o.connectTo),
    ("expires_at", .ofInstant o.expiresAt)] ++
    Json.unlessAbsent "metadata" (fun j => j) o.metadata

/-- The override of a tree. -/
def ofNode? (n : Node) : Option Override := do
  let fs ← n.fields memberNames
  return {
    workspaceId := ← required toText "workspace_id" fs
    campaignId := ← optional toText "campaign_id" fs
    overrideId := ← optional toText "override_id" fs
    connectTo := ← required toText "connect_to" fs
    expiresAt := ← required toInstant "expires_at" fs
    metadata := ← optional toData "metadata" fs }

end Override

namespace Destination

/-- The members of a destination. -/
def memberNames : List String := ["target_uri", "weight"]

/-- A destination as data. -/
def toJson (d : Destination) : Json :=
  .object [("target_uri", .string d.target), ("weight", .int d.weight.toInt)]

/-- The destination of a tree. -/
def ofNode? (n : Node) : Option Destination := do
  let fs ← n.fields memberNames
  return {
    target := ← required toText "target_uri" fs
    weight := ← required toInt32 "weight" fs }

end Destination

namespace Evaluation

/-- The members of an evaluation. -/
def memberNames : List String := ["allowed", "reason", "destinations"]

/-- An evaluation as data. -/
def toJson (e : Evaluation) : Json :=
  .object [
    ("allowed", .bool e.allowed),
    ("reason", Json.orNull .string e.reason),
    ("destinations", Json.ofList Destination.toJson e.destinations)]

/-- The evaluation of a tree. -/
def ofNode? (n : Node) : Option Evaluation := do
  let fs ← n.fields memberNames
  return {
    allowed := ← required toBool "allowed" fs
    reason := ← optional toText "reason" fs
    destinations := ← defaulted (toList Destination.ofNode?) [] "destinations" fs }

end Evaluation

/-- A decision as data. What is absent is left out. -/
def Decision.toJson (d : Decision) : Json :=
  .object <| [("workspace_id", .string d.workspaceId)] ++
    Json.unlessAbsent "campaign_id" .string d.campaignId ++
    [("action", .string d.action.kind.name)] ++
    Json.unlessAbsent "connect_to" .string d.connectTo ++
    Json.unlessAbsent "reason" (fun r => .string r.words) d.reason

end CallExchange
