import CallExchange.Ledger.Lemmas
import CallExchange.Ledger.Script

/-!
# Renaming identifiers

The identifiers of entries and actions are opaque: the ledger compares them when it looks for the
action of an entry, and does nothing else with them. Whatever it computes from renamed rows is the
renamed result, as long as different identifiers stay different.

## Main definitions

* `Entry.rename`, `AdminAction.rename`, `Book.rename`, `Transaction.rename` — rows with renamed
  identifiers
* `Stamp.rename`, `TxOp.rename`, `Op.rename` — operations with renamed identifiers
* `Receipt.rename`, `LogEvent.rename`, `Answer.rename` — answers and the log with renamed identifiers

## Main results

* `entry?_rename`, `Transaction.action?_rename` — what is found among renamed rows
* `action?_rename`, `storedAction?_rename` — the actions of a posting
-/

namespace CallExchange

variable {ρ : Uuid → Uuid} {stamp : Stamp} {key : WalletKey}

/-! ### Rows -/

/-- The entry under a renamed identifier. -/
def Entry.rename (ρ : Uuid → Uuid) (e : Entry) : Entry := { e with id := ρ e.id }

/-- The action under a renamed identifier, with the renamed identifier of its entry. -/
def AdminAction.rename (ρ : Uuid → Uuid) (a : AdminAction) : AdminAction :=
  { a with id := ρ a.id, relatedLedgerId := a.relatedLedgerId.map ρ }

@[simp] theorem Entry.idempotencyKey_rename (e : Entry) :
    (e.rename ρ).idempotencyKey = e.idempotencyKey := rfl

/-- Idempotency keys are not renamed. -/
theorem Entry.find?_rename (es : List Entry) (k : String) :
    Entry.find? (es.map (·.rename ρ)) k = (Entry.find? es k).map (·.rename ρ) := by
  rw [Entry.find?, List.find?_map]
  rfl

/-- The action of an entry is found under the renamed identifier. -/
theorem AdminAction.find?_rename (injective : Function.Injective ρ) (as : List AdminAction)
    (id : Uuid) :
    AdminAction.find? (as.map (·.rename ρ)) (ρ id) =
      (AdminAction.find? as id).map (·.rename ρ) := by
  have same (a : AdminAction) :
      decide ((a.rename ρ).relatedLedgerId = some (ρ id)) =
        decide (a.relatedLedgerId = some id) := by
    cases related : a.relatedLedgerId with
    | none => simp [AdminAction.rename, related]
    | some other => simp [AdminAction.rename, related, injective.eq_iff]
  rw [AdminAction.find?, List.find?_map]
  exact congrArg _ (congrArg (List.find? · as) (funext same))

/-- The book with renamed identifiers. -/
def Book.rename (ρ : Uuid → Uuid) (book : Book) : Book :=
  { book with
    entries := book.entries.map (·.rename ρ)
    actions := book.actions.map (·.rename ρ) }

@[simp] theorem Book.rename_new (w : Wallet) : (Book.new w).rename ρ = Book.new w := rfl

/-! ### Transactions -/

namespace Transaction

variable {tx : Transaction}

/-- The transaction with renamed identifiers. -/
def rename (ρ : Uuid → Uuid) (tx : Transaction) : Transaction :=
  { tx with
    book := tx.book.rename ρ
    newEntries := tx.newEntries.map (·.rename ρ)
    newActions := tx.newActions.map (·.rename ρ) }

@[simp] theorem key_rename : (tx.rename ρ).key = tx.key := rfl

@[simp] theorem wallet_rename : (tx.rename ρ).book.wallet = tx.book.wallet := rfl

@[simp] theorem balance_rename : (tx.rename ρ).balance = tx.balance := rfl

theorem entries_rename : (tx.rename ρ).entries = tx.entries.map (·.rename ρ) :=
  List.map_append.symm

theorem actions_rename : (tx.rename ρ).actions = tx.actions.map (·.rename ρ) :=
  List.map_append.symm

theorem view_rename : (tx.rename ρ).view = tx.view.rename ρ := by
  simp only [view, entries_rename, actions_rename]
  rfl

theorem entry?_rename (k : String) :
    Transaction.entry? (tx.rename ρ) k = (tx.entry? k).map (·.rename ρ) := by
  have found : Entry.find? (tx.entries.map (·.rename ρ)) k =
      (Entry.find? tx.entries k).map (·.rename ρ) := Entry.find?_rename tx.entries k
  rwa [← entries_rename] at found

theorem action?_rename (injective : Function.Injective ρ) (id : Uuid) :
    (tx.rename ρ).action? (ρ id) = (tx.action? id).map (·.rename ρ) := by
  rw [action?, actions_rename, AdminAction.find?_rename injective]
  rfl

end Transaction

/-- The open transaction with renamed identifiers. -/
def HeldTransaction.rename (ρ : Uuid → Uuid) (h : HeldTransaction) : HeldTransaction :=
  { h with tx := h.tx.rename ρ }

/-! ### Postings -/

/-- The stamp with renamed identifiers, and the same moment. -/
def Stamp.rename (ρ : Uuid → Uuid) (stamp : Stamp) : Stamp :=
  { stamp with entryId := ρ stamp.entryId, actionId := ρ stamp.actionId }

namespace Posting

variable {p : Posting}

theorem action?_rename :
    p.action? (stamp.rename ρ) key = (p.action? stamp key).map (·.rename ρ) := by
  cases kind : p.kind <;> simp only [action?, kind] <;> rfl

theorem storedAction?_rename (injective : Function.Injective ρ) {tx : Transaction} {e : Entry} :
    p.storedAction? (tx.rename ρ) (e.rename ρ) =
      (p.storedAction? tx e).map (·.rename ρ) := by
  cases kind : p.kind <;> simp only [storedAction?, kind]
  · rfl
  · rfl
  · exact Transaction.action?_rename injective e.id

end Posting

/-- The receipt with renamed identifiers. -/
def Receipt.rename (ρ : Uuid → Uuid) (r : Receipt) : Receipt :=
  { r with entry := r.entry.rename ρ, action := r.action.map (·.rename ρ) }

/-- The event with renamed identifiers of rows. Records of the audit trail have identifiers of their
own, which stay. -/
def LogEvent.rename (ρ : Uuid → Uuid) : LogEvent → LogEvent
  | .posted key entryId entryType amount balance =>
    .posted key (ρ entryId) entryType amount balance
  | .replayed key entryId => .replayed key (ρ entryId)
  | .actionNotRecorded workspaceId actionId error =>
    .actionNotRecorded workspaceId (ρ actionId) error
  | e => e

/-! ### Operations -/

/-- The draft under a renamed identifier. -/
def EntryDraft.rename (ρ : Uuid → Uuid) (d : EntryDraft) : EntryDraft := { d with id := ρ d.id }

/-- The draft under a renamed identifier, with the renamed identifier of its entry. -/
def ActionDraft.rename (ρ : Uuid → Uuid) (d : ActionDraft) : ActionDraft :=
  { d with id := ρ d.id, relatedLedgerId := d.relatedLedgerId.map ρ }

namespace Ledger

/-- The step inside a transaction with renamed identifiers. -/
def TxOp.rename (ρ : Uuid → Uuid) : TxOp → TxOp
  | .insertEntry draft => .insertEntry (draft.rename ρ)
  | .applyDelta currency delta => .applyDelta currency delta
  | .insertAction draft => .insertAction (draft.rename ρ)
  | .wallet => .wallet
  | .entries => .entries
  | .findEntry idempotencyKey => .findEntry idempotencyKey
  | .findAction entryId => .findAction (ρ entryId)
  | .balance => .balance

/-- The operation with renamed identifiers. Only steps inside transactions name any. -/
def Op.rename (ρ : Uuid → Uuid) : Op → Op
  | .inside name op => .inside name (op.rename ρ)
  | op => op

/-- The answer with renamed identifiers. -/
def Answer.rename (ρ : Uuid → Uuid) : Answer → Answer
  | .receipt r => .receipt (r.rename ρ)
  | .adminReceipt r => .adminReceipt (r.rename ρ)
  | .entries es => .entries (es.map (·.rename ρ))
  | .maybeEntry e => .maybeEntry (e.map (·.rename ρ))
  | .actions as => .actions (as.map (·.rename ρ))
  | .maybeAction a => .maybeAction (a.map (·.rename ρ))
  | .done => .done
  | .balance b => .balance b
  | .maybeBalance b => .maybeBalance b
  | .reconciliation r => .reconciliation r
  | .wallet w => .wallet w
  | .noTransaction => .noTransaction

end Ledger

end CallExchange
