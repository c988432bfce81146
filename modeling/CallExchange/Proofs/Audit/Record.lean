import CallExchange.Audit.Record
import CallExchange.Proofs.Wire.Values

/-!
# A record says all of its event

What is audited is flattened into the columns of a record and the members of its free-form data. It
can be put together again from there: instants and identifiers are read from their text, what is
null has been absent, and an identifier of a call that is absent has been empty. The one thing that
a record does not tell is whether the free-form data of an override was absent or null.

## Main definitions

* `AuditEvent.settled` — an event without free-form data that is null
* `AuditRecord.toEvent?` — the event that a record tells of

## Main results

* `AuditRecord.toEvent?_ofEvent` — the record of an event tells of it
* `AuditRecord.faithful` — a record has one event only
-/

namespace CallExchange

open Node

/-- What an object has under a name. -/
def Json.member? (name : String) : Json → Option Json
  | .object members => members.lookup name
  | .null | .bool _ | .int _ | .string _ | .array _ => none

/-- Free-form data that is there and not null. -/
def Json.settled : Option Json → Option Json
  | none | some .null => none
  | some j => some j

theorem Json.getD_settled (o : Option Json) : (settled o).getD .null = o.getD .null := by
  unfold settled
  split <;> rfl

/-- The event without free-form data that is null. -/
def AuditEvent.settled : AuditEvent → AuditEvent
  | .overrideApplied e => .overrideApplied { e with metadata := Json.settled e.metadata }
  | .adminAction e => .adminAction e

namespace AuditRecord

variable {α : Type}

/-- What the free-form data of a record says under a name. -/
def detail (read : Node → Option α) (name : String) (r : AuditRecord) : Option α :=
  (r.metadata.member? name).bind fun j => read j.toNode

/-- What the free-form data of a record says under a name where it may be null. -/
def detailOrNull (read : Node → Option α) (name : String) (r : AuditRecord) : Option (Option α) :=
  optionalOf read (r.metadata.member? name)

/-- The applied override that a record tells of. -/
def overrideEvent? (r : AuditRecord) : Option OverrideEvent := do
  return {
    workspaceId := r.workspaceId
    campaignId := r.campaignId
    overrideId := r.overrideId
    providerCallId := r.callId.getD ""
    caller := ← r.detail toText "from"
    dialed := ← r.detail toText "to"
    clientIp := r.ipAddress
    actorUserId := r.actorUserId
    connectTo := ← r.detail toText "connect_to"
    appliedAt := ← r.detail toInstant "applied_at"
    expiresAt := ← r.detail toInstant "expires_at"
    metadata := Json.settled (r.metadata.member? "override") }

/-- The administrative action that a record tells of. -/
def actionEvent? (r : AuditRecord) : Option AdminActionEvent := do
  return {
    workspaceId := r.workspaceId
    walletId := ← r.walletId
    adminUserId := ← r.actorUserId
    adminRole := ← r.actorRole
    action := ← r.detail AdminActionType.ofNode? "action"
    amount := ← r.detailOrNull toInt64 "amount_minor"
    currency := ← r.detailOrNull toText "currency"
    reason := r.message
    ledgerEntryId := ← r.detailOrNull toUuid "ledger_entry_id"
    occurredAt := ← r.detail toInstant "occurred_at" }

/-- The event that a record tells of. -/
def toEvent? (r : AuditRecord) : Option AuditEvent :=
  match r.kind with
  | .routingOverride => r.overrideEvent?.map .overrideApplied
  | .adminAction => r.actionEvent?.map .adminAction

/-- The record of an override tells of it. -/
theorem overrideEvent?_ofEvent (e : OverrideEvent) (id : Uuid) (createdAt : Instant) :
    (ofEvent (.overrideApplied e) id createdAt).overrideEvent? =
      some { e with metadata := Json.settled e.metadata } := by
  have call : (if e.providerCallId = "" then none else some e.providerCallId).getD "" =
      e.providerCallId := by
    by_cases empty : e.providerCallId = "" <;> simp [empty]
  have data : Json.settled (some (e.metadata.getD .null)) = Json.settled e.metadata := by
    cases e.metadata <;> rfl
  simp [overrideEvent?, detail, ofEvent, overrideData, Json.member?, List.lookup_cons, call, data]

/-- The record of an administrative action tells of it. -/
theorem actionEvent?_ofEvent (e : AdminActionEvent) (id : Uuid) (createdAt : Instant) :
    (ofEvent (.adminAction e) id createdAt).actionEvent? = some e := by
  have amount : optionalOf toInt64 (some (Json.orNull Json.ofAmount e.amount)) = some e.amount :=
    optionalOf_orNull fun _ _ => ⟨nofun, toInt64_ofAmount⟩
  have entry : optionalOf toUuid (some (Json.orNull Json.ofUuid e.ledgerEntryId)) =
      some e.ledgerEntryId :=
    optionalOf_orNull fun _ _ => ⟨nofun, toUuid_ofUuid⟩
  simp [actionEvent?, detail, detailOrNull, ofEvent, actionData, Json.member?, List.lookup_cons,
    amount, entry]

/-- The record of an event tells of it. -/
theorem toEvent?_ofEvent (e : AuditEvent) (id : Uuid) (createdAt : Instant) :
    (ofEvent e id createdAt).toEvent? = some e.settled := by
  cases e with
  | overrideApplied e =>
    have kind : (ofEvent (.overrideApplied e) id createdAt).kind = .routingOverride := rfl
    rw [toEvent?, kind]
    simp only [overrideEvent?_ofEvent, Option.map_some, AuditEvent.settled]
  | adminAction e =>
    have kind : (ofEvent (.adminAction e) id createdAt).kind = .adminAction := rfl
    rw [toEvent?, kind]
    simp only [actionEvent?_ofEvent, Option.map_some, AuditEvent.settled]

/-- A record does not tell absent free-form data from null. -/
theorem ofEvent_settled (e : AuditEvent) (id : Uuid) (createdAt : Instant) :
    ofEvent e.settled id createdAt = ofEvent e id createdAt := by
  cases e with
  | adminAction e => rfl
  | overrideApplied e => simp only [AuditEvent.settled, ofEvent, overrideData, Json.getD_settled]

/-- The event of a record can be told from it, and so can its workspace. Two records are the same if
and only if they have the same identifier and time and are of the same event, but for free-form data
of an override that is absent from the one event and null in the other. -/
theorem faithful (e : AuditEvent) (id : Uuid) (createdAt : Instant) :
    (ofEvent e id createdAt).toEvent? = some e.settled ∧
      (ofEvent e id createdAt).workspaceId = e.workspaceId ∧
      ∀ e' id' createdAt', ofEvent e id createdAt = ofEvent e' id' createdAt' ↔
        e.settled = e'.settled ∧ id = id' ∧ createdAt = createdAt' := by
  have own (e : AuditEvent) (id : Uuid) (createdAt : Instant) :
      (ofEvent e id createdAt).id = id ∧ (ofEvent e id createdAt).createdAt = createdAt ∧
        (ofEvent e id createdAt).workspaceId = e.workspaceId := by
    cases e <;> exact ⟨rfl, rfl, rfl⟩
  refine ⟨toEvent?_ofEvent e id createdAt, (own e id createdAt).2.2, fun e' id' createdAt' => ?_⟩
  constructor
  · intro same
    have event : some e.settled = some e'.settled := by
      rw [← toEvent?_ofEvent e id createdAt, same, toEvent?_ofEvent]
    have record : (ofEvent e id createdAt).id = id' := by rw [same, (own e' id' createdAt').1]
    have time : (ofEvent e id createdAt).createdAt = createdAt' := by
      rw [same, (own e' id' createdAt').2.1]
    exact ⟨Option.some.inj event, (own e id createdAt).1.symm.trans record,
      (own e id createdAt).2.1.symm.trans time⟩
  · rintro ⟨event, rfl, rfl⟩
    rw [← ofEvent_settled e, event, ofEvent_settled]

end AuditRecord

end CallExchange
