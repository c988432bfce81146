import CallExchange.Ledger.Basic
import CallExchange.Text.Blank

/-!
# Postings

A posting is a credit, a debit or an administrator's credit. It is checked, the wallet is locked, and
then either its idempotency key is new, and entry, balance and action are written together, or the
key has been used, and the stored entry is the answer.

The operations take the time and the fresh identifiers that they may use as an argument, the `Stamp`.

## Main definitions

* `Stamp` — the time and two fresh identifiers
* `Posting` — a credit, a debit or an administrator's credit
* `Receipt` — the answer to a posting
* `Ledger.post` — one posting from its checks to its commit
* `Ledger.credit`, `Ledger.debit`, `Ledger.adminCredit`, `Ledger.balance`, `Ledger.entries`,
  `Ledger.reconcile` — what the ledger offers its callers
* `Reconciliation` — sum of the entries beside the projection
-/

namespace CallExchange

open Text

/-- What an operation takes from outside: the time, and identifiers for the rows it may write. -/
structure Stamp where
  now : Instant
  entryId : Uuid
  actionId : Uuid
  deriving DecidableEq, Repr, Inhabited

/-- The reference on entries that an administrator's credit produced. -/
def adminCreditRef : String := "admin_manual_credit"

/-- What kind of posting it is. -/
inductive PostingKind where
  | credit
  | debit
  | adminCredit (actor : AdminActor) (reason : String)
  deriving DecidableEq, Repr, Inhabited

namespace PostingKind

/-- The type of the entry. -/
def entryType : PostingKind → EntryType
  | .credit | .adminCredit .. => .credit
  | .debit => .debit

/-- The amount with its sign. -/
def signed (amount : Minor) : PostingKind → Minor
  | .credit | .adminCredit .. => amount
  | .debit => -amount

end PostingKind

/-- A request to move money. -/
structure Posting where
  kind : PostingKind
  amount : Minor
  currency : String
  idempotencyKey : String
  externalRef : Option String
  metadata : Option Json
  deriving Repr, Inhabited

/-- The answer to a posting. -/
structure Receipt where
  entry : Entry
  balance : Balance
  /-- The administrative action that belongs to the entry, for an administrator's credit. -/
  action : Option AdminAction
  /-- The key had been used before, and nothing was written. -/
  replayed : Bool
  deriving Repr, Inhabited

namespace Posting

/-- A credit. -/
def ofCredit (r : PostingRequest) : Posting :=
  ⟨.credit, r.amount, r.currency, r.idempotencyKey, r.externalRef, r.metadata⟩

/-- A debit. -/
def ofDebit (r : PostingRequest) : Posting :=
  ⟨.debit, r.amount, r.currency, r.idempotencyKey, r.externalRef, r.metadata⟩

/-- An administrator's credit. -/
def ofAdminCredit (actor : AdminActor) (r : AdminCreditRequest) : Posting :=
  ⟨.adminCredit actor r.reason, r.amount, r.currency, r.idempotencyKey, some adminCreditRef,
    r.metadata⟩

/-- The amount with its sign. -/
def signed (p : Posting) : Minor := p.kind.signed p.amount

/-- The entry that the posting writes. -/
def entry (p : Posting) (stamp : Stamp) (key : WalletKey) : Entry where
  id := stamp.entryId
  workspaceId := key.workspaceId
  walletId := key.walletId
  entryType := p.kind.entryType
  amount := p.signed
  currency := p.currency
  externalRef := p.externalRef
  idempotencyKey := p.idempotencyKey
  metadata := p.metadata
  createdAt := stamp.now

/-- The action that an administrator's credit records with its entry. -/
def action? (p : Posting) (stamp : Stamp) (key : WalletKey) : Option AdminAction :=
  match p.kind with
  | .adminCredit actor reason => some {
      id := stamp.actionId
      workspaceId := key.workspaceId
      walletId := key.walletId
      adminUserId := actor.userId
      adminRole := actor.role
      action := .adjustBalance
      reason := reason
      amount := some p.amount
      currency := some p.currency
      relatedLedgerId := some stamp.entryId
      metadata := p.metadata
      createdAt := stamp.now }
  | .credit | .debit => none

/-- The action that was recorded with a stored entry, as far as the posting is an administrator's
credit. -/
def storedAction? (p : Posting) (tx : Transaction) (stored : Entry) : Option AdminAction :=
  match p.kind with
  | .adminCredit .. => tx.action? stored.id
  | .credit | .debit => none

/-- What is wrong with the posting before any wallet is looked at. -/
def refusal? (p : Posting) : Option Refusal :=
  if p.amount ≤ 0 then some .amountNotPositive
  else if isBlank p.currency then some .currencyRequired
  else if isBlank p.idempotencyKey then some .idempotencyKeyRequired
  else none

end Posting

/-- What is wrong with the two identifiers of a wallet. -/
def WalletKey.refusal? (key : WalletKey) : Option Refusal :=
  if isBlank key.workspaceId then some .workspaceIdRequired
  else if isBlank key.walletId then some .walletIdRequired
  else none

/-- Sum of a wallet's entries beside its projection. -/
structure Reconciliation where
  ledgerSum : Minor
  /-- Absent when there is no projection. -/
  projected : Option Minor
  entryCount : Nat
  deriving DecidableEq, Repr, Inhabited

/-- The projection shows the sum; without a projection there are no entries. -/
def Reconciliation.isConsistent (r : Reconciliation) : Bool :=
  match r.projected with
  | some projected => projected = r.ledgerSum
  | none => r.entryCount = 0

namespace Ledger

/-- Ends the operation if there is something to refuse. -/
def refuse : Option Refusal → LedgerM Unit
  | some cause => fail (.invalidArgument cause)
  | none => pure ()

/-- The answer to a posting whose key has been used: the stored entry and the balance as it is now.
A difference in amount or type is noted. -/
def replay (key : WalletKey) (p : Posting) (tx : Transaction) (stored : Entry) :
    LedgerM Receipt := do
  noteIf (stored.amount ≠ p.signed ∨ stored.entryType ≠ p.kind.entryType)
    (.keyReused key p.idempotencyKey stored.amount p.signed)
  match tx.balance with
  | none => fail (.notFound (.balance key.walletId))
  | some balance =>
    note (.replayed key stored.id)
    return ⟨stored, balance, p.storedAction? tx stored, true⟩

/-- What stands against a posting when the balance is the given one. A debit needs funds: those of
the balance, or none where nothing has been posted. -/
def shortfall? (p : Posting) (balance : Option Balance) : Option WalletError :=
  match p.kind, balance with
  | .credit, _ | .adminCredit .., _ => none
  | .debit, some b =>
    if b.currency ≠ p.currency then some (.invalidArgument (.balanceCurrency p.currency b.currency))
    else if b.amount < p.amount then some (.insufficientFunds b.amount p.amount)
    else none
  | .debit, none => if 0 < p.amount then some (.insufficientFunds 0 p.amount) else none

/-- Ends the operation if the wallet lacks funds for the posting. -/
def checkFunds (p : Posting) (tx : Transaction) : LedgerM Unit :=
  match shortfall? p tx.balance with
  | some e => fail e
  | none => pure ()

/-- Appends an action if there is one. -/
def insertAction? (tx : Transaction) : Option AdminAction → LedgerM Transaction
  | some action => tx.insertAction action
  | none => pure tx

/-- Writes entry, balance and action of a posting with a new key, and commits them together. -/
def write (stamp : Stamp) (key : WalletKey) (p : Posting) (tx : Transaction) :
    LedgerM Receipt := do
  checkFunds p tx
  let entry := p.entry stamp key
  let tx ← tx.insertEntry entry
  let (balance, tx) ← tx.applyDelta p.currency entry.amount stamp.now
  let tx ← insertAction? tx (p.action? stamp key)
  tx.commit
  note (.posted key entry.id entry.entryType entry.amount balance.amount)
  return ⟨entry, balance, p.action? stamp key, false⟩

/-- One posting: checks, the lock on the wallet, its currency, and then a replay or a write. -/
def post (stamp : Stamp) (key : WalletKey) (p : Posting) : LedgerM Receipt := do
  refuse key.refusal?
  refuse p.refusal?
  let tx ← begin key
  failIf (tx.book.wallet.currency ≠ p.currency)
    (.invalidArgument (.walletCurrency p.currency tx.book.wallet.currency))
  match tx.entry? p.idempotencyKey with
  | some stored => replay key p tx stored
  | none => write stamp key p tx

/-- Adds funds to a wallet. -/
def credit (stamp : Stamp) (key : WalletKey) (r : PostingRequest) : LedgerM Receipt :=
  post stamp key (.ofCredit r)

/-- Charges a wallet. -/
def debit (stamp : Stamp) (key : WalletKey) (r : PostingRequest) : LedgerM Receipt :=
  post stamp key (.ofDebit r)

/-- Reports the action that a posting has written; a replay has written none. -/
def reportFresh (r : Receipt) : LedgerM Unit :=
  match r.replayed, r.action with
  | false, some action => report action
  | _, _ => pure ()

/-- Adds funds on behalf of an administrator, and reports the action once it is committed. -/
def adminCredit (stamp : Stamp) (key : WalletKey) (actor : AdminActor) (r : AdminCreditRequest) :
    LedgerM Receipt := do
  failIf (isBlank actor.userId) (.invalidArgument .adminUserRequired)
  failIf (isBlank r.reason) (.invalidArgument .reasonRequired)
  let receipt ← post stamp key (.ofAdminCredit actor r)
  reportFresh receipt
  return receipt

/-- The balance of a wallet, if anything has been posted. -/
def balance (key : WalletKey) : LedgerM Balance := do
  refuse key.refusal?
  match ← storedBalance key with
  | some b => return b
  | none => fail (.notFound (.balance key.walletId))

/-- The entries of a wallet, oldest first. -/
def entries (key : WalletKey) : LedgerM (List Entry) := do
  refuse key.refusal?
  let tx ← begin key
  return tx.entries

/-- Compares the entries of a wallet with its projection; a difference is noted. -/
def reconcile (key : WalletKey) : LedgerM Reconciliation := do
  refuse key.refusal?
  let tx ← begin key
  match Minor.sum? (tx.entries.map (·.amount)) with
  | none => fail (.persistence .sumOverflow)
  | some sum =>
    let r : Reconciliation := ⟨sum, tx.balance.map (·.amount), tx.entries.length⟩
    noteIf (!r.isConsistent) (.drifted key sum r.projected)
    return r

end Ledger

end CallExchange
