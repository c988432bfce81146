import CallExchange.Ledger.Posting

/-!
# Runs of the ledger

Everything that can happen to a ledger is an operation: what the service offers its callers, the
registration of wallets, the arming of fail points, and the steps of transactions that stay open
under a name. A run applies operations one after the other, each with its own stamp. An operation
that has to wait for a wallet has no effect.

## Main definitions

* `Ledger.Op` — the operations
* `Ledger.Answer` — what an operation that does not halt answers
* `Ledger.step` — one operation: the answer, the ledger after it, the log and the reports
* `Ledger.run` — the answers of a list of operations, and the ledger after them
-/

namespace CallExchange

/-- The parts of an entry that a raw transaction chooses. -/
structure EntryDraft where
  id : Uuid
  entryType : EntryType
  amount : Minor
  currency : String
  idempotencyKey : String
  externalRef : Option String
  metadata : Option Json
  /-- The wallet that the row names, which nothing checks; the transaction's own if none is
  chosen. -/
  place : Option WalletKey := none
  deriving Repr, Inhabited

/-- The entry of a draft in a transaction on a wallet. -/
def EntryDraft.toEntry (d : EntryDraft) (key : WalletKey) (now : Instant) : Entry where
  id := d.id
  workspaceId := (d.place.getD key).workspaceId
  walletId := (d.place.getD key).walletId
  entryType := d.entryType
  amount := d.amount
  currency := d.currency
  externalRef := d.externalRef
  idempotencyKey := d.idempotencyKey
  metadata := d.metadata
  createdAt := now

/-- The parts of an administrative action that a raw transaction chooses. -/
structure ActionDraft where
  id : Uuid
  relatedLedgerId : Option Uuid
  actor : AdminActor
  action : AdminActionType
  reason : String
  amount : Option Minor
  currency : Option String
  metadata : Option Json
  /-- The wallet that the row names, which nothing checks; the transaction's own if none is
  chosen. -/
  place : Option WalletKey := none
  deriving Repr, Inhabited

/-- The action of a draft in a transaction on a wallet. -/
def ActionDraft.toAction (d : ActionDraft) (key : WalletKey) (now : Instant) : AdminAction where
  id := d.id
  workspaceId := (d.place.getD key).workspaceId
  walletId := (d.place.getD key).walletId
  adminUserId := d.actor.userId
  adminRole := d.actor.role
  action := d.action
  reason := d.reason
  amount := d.amount
  currency := d.currency
  relatedLedgerId := d.relatedLedgerId
  metadata := d.metadata
  createdAt := now

namespace Ledger

/-- What can happen inside an open transaction. -/
inductive TxOp where
  | insertEntry (draft : EntryDraft)
  | applyDelta (currency : String) (delta : Minor)
  | insertAction (draft : ActionDraft)
  | wallet
  | entries
  | findEntry (idempotencyKey : String)
  | findAction (entryId : Uuid)
  | balance
  deriving Repr, Inhabited

/-- What can happen to a ledger. -/
inductive Op where
  | createWallet (wallet : Wallet)
  | failNext (point : FailPoint)
  | credit (key : WalletKey) (request : PostingRequest)
  | debit (key : WalletKey) (request : PostingRequest)
  | adminCredit (key : WalletKey) (actor : AdminActor) (request : AdminCreditRequest)
  | balance (key : WalletKey)
  | storedBalance (key : WalletKey)
  | entries (key : WalletKey)
  | reconcile (key : WalletKey)
  | adminActions (key : WalletKey)
  /-- Opens a transaction under a name; one that is open under that name is given up first. -/
  | begin (name : String) (key : WalletKey)
  | inside (name : String) (op : TxOp)
  | commit (name : String)
  | rollback (name : String)
  deriving Repr, Inhabited

/-- What an operation answers. -/
inductive Answer where
  | done
  | receipt (r : Receipt)
  | adminReceipt (r : Receipt)
  | balance (b : Balance)
  | maybeBalance (b : Option Balance)
  | entries (es : List Entry)
  | maybeEntry (e : Option Entry)
  | reconciliation (r : Reconciliation)
  | actions (as : List AdminAction)
  | maybeAction (a : Option AdminAction)
  | wallet (w : Wallet)
  /-- No transaction of the name is open. -/
  | noTransaction
  deriving Repr, Inhabited

/-- What an operation leaves behind. -/
structure Outcome where
  answer : Except (Halt WalletError) Answer
  ledger : Ledger
  log : List LogEvent
  /-- The committed administrative actions to report to the audit trail. -/
  reports : List AdminAction

/-- The outcome of an operation that starts with a clean desk. -/
def LedgerM.outcome (m : LedgerM Answer) (l : Ledger) : Outcome :=
  match m.run (.of l) with
  | .ok answer d => ⟨.ok answer, d.ledger, d.log, d.reports⟩
  | .error halt d => ⟨.error halt, d.ledger, d.log, d.reports⟩

/-- A step inside an open transaction: the answer and the transaction after it. -/
def TxOp.run (stamp : Stamp) (tx : Transaction) : TxOp → LedgerM (Answer × Transaction)
  | .insertEntry draft => do
    let tx ← tx.insertEntry (draft.toEntry tx.key stamp.now)
    return (.done, tx)
  | .applyDelta currency delta => do
    let (b, tx) ← tx.applyDelta currency delta stamp.now
    return (.balance b, tx)
  | .insertAction draft => do
    let tx ← tx.insertAction (draft.toAction tx.key stamp.now)
    return (.done, tx)
  | .wallet => return (.wallet tx.book.wallet, tx)
  | .entries => return (.entries tx.entries, tx)
  | .findEntry idempotencyKey => return (.maybeEntry (tx.entry? idempotencyKey), tx)
  | .findAction entryId => return (.maybeAction (tx.action? entryId), tx)
  | .balance => return (.maybeBalance tx.balance, tx)

/-- Changes the ledger on the desk. -/
def modifyLedger (f : Ledger → Ledger) : LedgerM Unit :=
  modify fun d => { d with ledger := f d.ledger }

/-- The transaction that is open under a name, if any. -/
def current? (name : String) : LedgerM (Option Transaction) := do return (← get).ledger.held? name

/-- Opens a transaction and keeps it under a name. -/
def beginHeld (name : String) (key : WalletKey) : LedgerM Answer := do
  modifyLedger (·.release name)
  let tx ← begin key
  modifyLedger (·.hold name tx)
  return .wallet tx.book.wallet

/-- A step inside the transaction of a name, which stays open whatever happens. -/
def insideHeld (stamp : Stamp) (name : String) (op : TxOp) : LedgerM Answer := do
  match ← current? name with
  | none => return .noTransaction
  | some tx =>
    let (answer, tx) ← op.run stamp tx
    modifyLedger fun l =>
      { l with held := l.held.map fun h => if h.name = name then { h with tx := tx } else h }
    return answer

/-- Commits the transaction of a name, which is closed whatever happens. -/
def commitHeld (name : String) : LedgerM Answer := do
  match ← current? name with
  | none => return .noTransaction
  | some tx =>
    modifyLedger (·.release name)
    tx.commit
    return .done

/-- Gives up the transaction of a name. -/
def rollbackHeld (name : String) : LedgerM Answer := do
  match ← current? name with
  | none => return .noTransaction
  | some _ =>
    modifyLedger (·.release name)
    return .done

/-- What an operation does. -/
def Op.action (stamp : Stamp) : Op → LedgerM Answer
  | .createWallet wallet => do
    Ledger.createWallet wallet
    return .done
  | .failNext point => do
    modifyLedger (·.withPoint point true)
    return .done
  | .credit key request => return .receipt (← Ledger.credit stamp key request)
  | .debit key request => return .receipt (← Ledger.debit stamp key request)
  | .adminCredit key actor request =>
    return .adminReceipt (← Ledger.adminCredit stamp key actor request)
  | .balance key => return .balance (← Ledger.balance key)
  | .storedBalance key => return .maybeBalance (← Ledger.storedBalance key)
  | .entries key => return .entries (← Ledger.entries key)
  | .reconcile key => return .reconciliation (← Ledger.reconcile key)
  | .adminActions key => return .actions (← Ledger.adminActions key)
  | .begin name key => beginHeld name key
  | .inside name op => insideHeld stamp name op
  | .commit name => commitHeld name
  | .rollback name => rollbackHeld name

/-- One operation. -/
def step (stamp : Stamp) (l : Ledger) (op : Op) : Outcome := LedgerM.outcome (op.action stamp) l

/-- A list of operations, each with its stamp: their outcomes and the ledger after them. -/
def run (l : Ledger) : List (Stamp × Op) → List Outcome × Ledger
  | [] => ([], l)
  | (stamp, op) :: rest =>
    let outcome := step stamp l op
    let (outcomes, l) := run outcome.ledger rest
    (outcome :: outcomes, l)

end Ledger

end CallExchange
