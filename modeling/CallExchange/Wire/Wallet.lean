import CallExchange.Wire.Basic

/-!
# Wallet records as structured data

The records of wallets, with the names and the order of their members. Members that may be absent are
left out when they are.
-/

namespace CallExchange

open Node

namespace Wallet

/-- The members of a wallet. -/
def memberNames : List String :=
  ["id", "workspace_id", "currency", "status", "created_at", "updated_at"]

/-- A wallet as data. -/
def toJson (w : Wallet) : Json :=
  .object [
    ("id", .string w.id),
    ("workspace_id", .string w.workspaceId),
    ("currency", .string w.currency),
    ("status", .string w.status.name),
    ("created_at", .ofInstant w.createdAt),
    ("updated_at", .ofInstant w.updatedAt)]

/-- The wallet of a tree. -/
def ofNode? (n : Node) : Option Wallet := do
  let fs ← n.fields memberNames
  return {
    id := ← required toText "id" fs
    workspaceId := ← required toText "workspace_id" fs
    currency := ← required toText "currency" fs
    status := ← required WalletStatus.ofNode? "status" fs
    createdAt := ← required toInstant "created_at" fs
    updatedAt := ← required toInstant "updated_at" fs }

end Wallet

namespace Entry

/-- The members of an entry. -/
def memberNames : List String :=
  ["id", "workspace_id", "wallet_id", "type", "amount_minor", "currency", "external_ref",
    "idempotency_key", "metadata", "created_at"]

/-- An entry as data. -/
def toJson (e : Entry) : Json :=
  .object <| [
    ("id", .ofUuid e.id),
    ("workspace_id", .string e.workspaceId),
    ("wallet_id", .string e.walletId),
    ("type", .string e.entryType.name),
    ("amount_minor", .ofAmount e.amount),
    ("currency", .string e.currency)] ++
    Json.unlessAbsent "external_ref" .string e.externalRef ++ [
    ("idempotency_key", .string e.idempotencyKey)] ++
    Json.unlessAbsent "metadata" (fun j => j) e.metadata ++ [
    ("created_at", .ofInstant e.createdAt)]

/-- The entry of a tree. -/
def ofNode? (n : Node) : Option Entry := do
  let fs ← n.fields memberNames
  return {
    id := ← required toUuid "id" fs
    workspaceId := ← required toText "workspace_id" fs
    walletId := ← required toText "wallet_id" fs
    entryType := ← required EntryType.ofNode? "type" fs
    amount := ← required toInt64 "amount_minor" fs
    currency := ← required toText "currency" fs
    externalRef := ← optional toText "external_ref" fs
    idempotencyKey := ← required toText "idempotency_key" fs
    metadata := ← optional toData "metadata" fs
    createdAt := ← required toInstant "created_at" fs }

end Entry

namespace Balance

/-- The members of a balance. -/
def memberNames : List String :=
  ["workspace_id", "wallet_id", "currency", "balance_minor", "updated_at"]

/-- A balance as data. -/
def toJson (b : Balance) : Json :=
  .object [
    ("workspace_id", .string b.workspaceId),
    ("wallet_id", .string b.walletId),
    ("currency", .string b.currency),
    ("balance_minor", .ofAmount b.amount),
    ("updated_at", .ofInstant b.updatedAt)]

/-- The balance of a tree. -/
def ofNode? (n : Node) : Option Balance := do
  let fs ← n.fields memberNames
  return {
    workspaceId := ← required toText "workspace_id" fs
    walletId := ← required toText "wallet_id" fs
    currency := ← required toText "currency" fs
    amount := ← required toInt64 "balance_minor" fs
    updatedAt := ← required toInstant "updated_at" fs }

end Balance

namespace AdminAction

/-- The members of an administrative action. -/
def memberNames : List String :=
  ["id", "workspace_id", "wallet_id", "admin_user_id", "admin_role", "action", "reason",
    "amount_minor", "currency", "related_ledger_id", "metadata", "created_at"]

/-- An administrative action as data. -/
def toJson (a : AdminAction) : Json :=
  .object <| [
    ("id", .ofUuid a.id),
    ("workspace_id", .string a.workspaceId),
    ("wallet_id", .string a.walletId),
    ("admin_user_id", .string a.adminUserId),
    ("admin_role", .string a.adminRole.name),
    ("action", .string a.action.name),
    ("reason", .string a.reason)] ++
    Json.unlessAbsent "amount_minor" Json.ofAmount a.amount ++
    Json.unlessAbsent "currency" .string a.currency ++
    Json.unlessAbsent "related_ledger_id" Json.ofUuid a.relatedLedgerId ++
    Json.unlessAbsent "metadata" (fun j => j) a.metadata ++ [
    ("created_at", .ofInstant a.createdAt)]

/-- The administrative action of a tree. -/
def ofNode? (n : Node) : Option AdminAction := do
  let fs ← n.fields memberNames
  return {
    id := ← required toUuid "id" fs
    workspaceId := ← required toText "workspace_id" fs
    walletId := ← required toText "wallet_id" fs
    adminUserId := ← required toText "admin_user_id" fs
    adminRole := ← required Role.ofNode? "admin_role" fs
    action := ← required AdminActionType.ofNode? "action" fs
    reason := ← required toText "reason" fs
    amount := ← optional toInt64 "amount_minor" fs
    currency := ← optional toText "currency" fs
    relatedLedgerId := ← optional toUuid "related_ledger_id" fs
    metadata := ← optional toData "metadata" fs
    createdAt := ← required toInstant "created_at" fs }

end AdminAction

namespace PostingRequest

/-- The members of a request to credit or debit. -/
def memberNames : List String :=
  ["amount_minor", "currency", "external_ref", "idempotency_key", "metadata"]

/-- A request to credit or debit as data. -/
def toJson (r : PostingRequest) : Json :=
  .object <| [
    ("amount_minor", .ofAmount r.amount),
    ("currency", .string r.currency)] ++
    Json.unlessAbsent "external_ref" .string r.externalRef ++ [
    ("idempotency_key", .string r.idempotencyKey)] ++
    Json.unlessAbsent "metadata" (fun j => j) r.metadata

/-- The request to credit or debit of a tree. -/
def ofNode? (n : Node) : Option PostingRequest := do
  let fs ← n.fields memberNames
  return {
    amount := ← required toInt64 "amount_minor" fs
    currency := ← required toText "currency" fs
    externalRef := ← optional toText "external_ref" fs
    idempotencyKey := ← required toText "idempotency_key" fs
    metadata := ← optional toData "metadata" fs }

end PostingRequest

namespace AdminCreditRequest

/-- The members of a request for an administrator's credit. -/
def memberNames : List String :=
  ["amount_minor", "currency", "reason", "idempotency_key", "metadata"]

/-- A request for an administrator's credit as data. -/
def toJson (r : AdminCreditRequest) : Json :=
  .object <| [
    ("amount_minor", .ofAmount r.amount),
    ("currency", .string r.currency),
    ("reason", .string r.reason),
    ("idempotency_key", .string r.idempotencyKey)] ++
    Json.unlessAbsent "metadata" (fun j => j) r.metadata

/-- The request for an administrator's credit of a tree. -/
def ofNode? (n : Node) : Option AdminCreditRequest := do
  let fs ← n.fields memberNames
  return {
    amount := ← required toInt64 "amount_minor" fs
    currency := ← required toText "currency" fs
    reason := ← required toText "reason" fs
    idempotencyKey := ← required toText "idempotency_key" fs
    metadata := ← optional toData "metadata" fs }

end AdminCreditRequest

end CallExchange
