import CallExchange.Ledger.Book
import CallExchange.Ledger.Error
import CallExchange.Log

/-!
# The ledger and its transactions

A ledger has a book for each wallet, a set of armed fail points, and the transactions that are open.
An open transaction holds its wallet: whatever else needs the wallet waits until it ends. An
operation of the ledger either gives an answer or halts; what it wrote to the log and which fail
points it used up stays either way.

## Main definitions

* `Ledger` — books, armed fail points and open transactions
* `Ledger.Desk` — what an operation works on: the ledger, the log so far, and the administrative
  actions to report
* `LedgerM` — operations of the ledger
* `Ledger.begin`, `Transaction.insertEntry`, `Transaction.applyDelta`, `Transaction.insertAction`,
  `Transaction.commit` — the steps of a transaction
-/

namespace CallExchange

/-- A transaction that stays open between operations, under a name. -/
structure HeldTransaction where
  name : String
  tx : Transaction
  deriving Repr, Inhabited

/-- All books, the armed fail points, and the open transactions. -/
structure Ledger where
  books : WalletKey → Option Book
  armed : FailPoint → Bool
  held : List HeldTransaction

namespace Ledger

/-- No wallets, nothing armed, nothing open. -/
def empty : Ledger := ⟨fun _ => none, fun _ => false, []⟩

instance : Inhabited Ledger := ⟨empty⟩

/-- The ledger with a book in its place. -/
def withBook (l : Ledger) (key : WalletKey) (book : Book) : Ledger :=
  { l with books := fun k => if k = key then some book else l.books k }

/-- The ledger with a fail point armed or not. -/
def withPoint (l : Ledger) (point : FailPoint) (on : Bool) : Ledger :=
  { l with armed := fun p => if p = point then on else l.armed p }

/-- An open transaction holds the wallet. -/
def isHeld (l : Ledger) (key : WalletKey) : Bool := l.held.any fun h => h.tx.key = key

/-- The open transaction of a name. -/
def held? (l : Ledger) (name : String) : Option Transaction :=
  (l.held.find? fun h => h.name = name).map (·.tx)

/-- The ledger without the open transaction of a name. -/
def release (l : Ledger) (name : String) : Ledger :=
  { l with held := l.held.filter fun h => h.name ≠ name }

/-- The ledger with a transaction held under a name. -/
def hold (l : Ledger) (name : String) (tx : Transaction) : Ledger :=
  { l with held := (l.release name).held ++ [⟨name, tx⟩] }

/-- What an operation works on. -/
structure Desk where
  ledger : Ledger
  /-- The log so far. -/
  log : List LogEvent
  /-- The committed administrative actions to report to the audit trail. -/
  reports : List AdminAction

/-- A desk with a ledger and nothing else on it. -/
def Desk.of (l : Ledger) : Desk := ⟨l, [], []⟩

end Ledger

/-- An operation of the ledger. -/
abbrev LedgerM := EStateM (Halt WalletError) Ledger.Desk

namespace Ledger

/-- Ends the operation with an error. -/
def fail {α : Type} (e : WalletError) : LedgerM α := throw (.failed e)

/-- Ends the operation with an error if a condition holds. -/
def failIf (c : Prop) [Decidable c] (e : WalletError) : LedgerM Unit :=
  if c then fail e else pure ()

/-- Writes to the log. -/
def note (e : LogEvent) : LedgerM Unit := modify fun d => { d with log := d.log ++ [e] }

/-- Writes to the log if a condition holds. -/
def noteIf (c : Prop) [Decidable c] (e : LogEvent) : LedgerM Unit :=
  if c then note e else pure ()

/-- Reports a committed action. -/
def report (a : AdminAction) : LedgerM Unit :=
  modify fun d => { d with reports := d.reports ++ [a] }

/-- Fails if the point is armed; the failure disarms it. -/
def trip (point : FailPoint) : LedgerM Unit := do
  if (← get).ledger.armed point then
    modify fun d => { d with ledger := d.ledger.withPoint point false }
    fail (.persistence (.injected point))

/-- The book of a wallet, if the wallet exists; waits while the wallet is held. -/
def book? (key : WalletKey) : LedgerM (Option Book) := do
  let l := (← get).ledger
  match l.books key with
  | none => return none
  | some book => if l.isHeld key then throw .waiting else return some book

/-- Opens a transaction on a wallet. -/
def begin (key : WalletKey) : LedgerM Transaction := do
  match ← book? key with
  | some book => return .opened key book
  | none => fail (.notFound (.wallet key.walletId))

/-- The projection of a wallet's balance outside of any transaction. -/
def storedBalance (key : WalletKey) : LedgerM (Option Balance) := do
  return (← book? key).bind (·.balance)

/-- The administrative actions of a wallet; none if there is no such wallet. -/
def adminActions (key : WalletKey) : LedgerM (List AdminAction) := do
  return ((← book? key).map (·.actions)).getD []

/-- Registers a wallet under a key that is free. -/
def createWallet (w : Wallet) : LedgerM Unit := do
  match (← get).ledger.books w.key with
  | some _ => fail (.invalidArgument (.walletExists w.id))
  | none => modify fun d => { d with ledger := d.ledger.withBook w.key (.new w) }

end Ledger

namespace Transaction

open Ledger

/-- Appends an entry whose key is still free. -/
def insertEntry (tx : Transaction) (e : Entry) : LedgerM Transaction := do
  trip .insertEntry
  failIf (tx.entry? e.idempotencyKey).isSome (.persistence (.duplicateKey e.idempotencyKey))
  return { tx with newEntries := tx.newEntries ++ [e] }

/-- Moves the projection of the balance. -/
def applyDelta (tx : Transaction) (currency : String) (delta : Minor) (now : Instant) :
    LedgerM (Balance × Transaction) := do
  trip .applyDelta
  match Balance.moved? tx.book.wallet tx.balance currency delta now with
  | some b => return (b, { tx with newBalance := some b })
  | none => fail (.persistence .balanceOverflow)

/-- Appends an administrative action. -/
def insertAction (tx : Transaction) (a : AdminAction) : LedgerM Transaction := do
  trip .insertAdminAction
  return { tx with newActions := tx.newActions ++ [a] }

/-- Puts the transaction's view in the place of the book. -/
def commit (tx : Transaction) : LedgerM Unit := do
  trip .commit
  modify fun d => { d with ledger := d.ledger.withBook tx.key tx.view }

end Transaction

end CallExchange
