import CallExchange.Wallet

/-!
# Books and transactions

A book holds what is committed of one wallet: the wallet itself, its entries and administrative
actions in the order in which they were committed, and the projection of its balance. A transaction
works on one book: it sees the committed rows followed by its own, and its own become part of the
book only at the end, all at once.

## Main definitions

* `Book` — the committed rows of a wallet
* `Transaction` — a book with rows that are not committed yet
* `Transaction.view` — the book as the transaction sees it, which is the book after a commit
-/

namespace CallExchange

/-- The committed rows of one wallet. -/
structure Book where
  wallet : Wallet
  balance : Option Balance
  entries : List Entry
  actions : List AdminAction
  deriving Repr, Inhabited

/-- The book of a new wallet. -/
def Book.new (w : Wallet) : Book := ⟨w, none, [], []⟩

/-- The entry that carries an idempotency key. -/
def Entry.find? (entries : List Entry) (key : String) : Option Entry :=
  entries.find? fun e => e.idempotencyKey = key

/-- The action that an entry belongs to. -/
def AdminAction.find? (actions : List AdminAction) (entryId : Uuid) : Option AdminAction :=
  actions.find? fun a => a.relatedLedgerId = some entryId

/-- Work on one book that is not committed yet. -/
structure Transaction where
  key : WalletKey
  /-- The book as it was when the transaction was opened; nobody else changes it meanwhile. -/
  book : Book
  newEntries : List Entry
  newBalance : Option Balance
  newActions : List AdminAction
  deriving Repr, Inhabited

namespace Transaction

/-- A transaction that has written nothing. -/
def opened (key : WalletKey) (book : Book) : Transaction := ⟨key, book, [], none, []⟩

/-- The entries, committed ones first. -/
def entries (tx : Transaction) : List Entry := tx.book.entries ++ tx.newEntries

/-- The actions, committed ones first. -/
def actions (tx : Transaction) : List AdminAction := tx.book.actions ++ tx.newActions

/-- The projection of the balance, if there is one by now. -/
def balance (tx : Transaction) : Option Balance := tx.newBalance.or tx.book.balance

/-- The book as the transaction sees it. -/
def view (tx : Transaction) : Book := ⟨tx.book.wallet, tx.balance, tx.entries, tx.actions⟩

/-- The entry that carries an idempotency key. -/
def entry? (tx : Transaction) (key : String) : Option Entry := Entry.find? tx.entries key

/-- The action that an entry belongs to. -/
def action? (tx : Transaction) (entryId : Uuid) : Option AdminAction :=
  AdminAction.find? tx.actions entryId

@[simp] theorem view_opened (key : WalletKey) (book : Book) : (opened key book).view = book := by
  simp [view, opened, balance, entries, actions]

end Transaction

/-- The projection of a balance after a movement, if the amount stays within 64 bits. A wallet
without a projection gets one in the currency of the movement. -/
def Balance.moved? (wallet : Wallet) (current : Option Balance) (currency : String)
    (delta : Minor) (now : Instant) : Option Balance :=
  match current with
  | some b => (Minor.add? b.amount delta).map fun sum => { b with amount := sum, updatedAt := now }
  | none => some ⟨wallet.workspaceId, wallet.id, currency, delta, now⟩

end CallExchange
