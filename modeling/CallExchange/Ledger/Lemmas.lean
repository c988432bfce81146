import CallExchange.Ledger.Posting

/-!
# What the steps of a ledger leave behind

One equation for each step of the ledger: its answer, or the error it ends with, and the desk
afterwards. A step that ends with an error has changed nothing on the desk, except that a fail point
that made it fail is no longer armed.

## Main results

* `books_withBook_self`, `books_withBook_of_ne` — a book in its place
* `run_trip`, `run_begin`, `run_insertEntry`, `run_applyDelta`, `run_insertAction`, `run_commit` — the
  steps of a transaction
* `run_refuse`, `run_checkFunds`, `run_replay` — the steps of a posting
-/

namespace CallExchange.Ledger

section

variable {l : Ledger} {key : WalletKey} {book : Book} {point : FailPoint} {on : Bool}

@[simp] theorem books_withBook_self : (l.withBook key book).books key = some book := by
  simp [withBook]

theorem books_withBook_of_ne {k : WalletKey} (other : k ≠ key) :
    (l.withBook key book).books k = l.books k := by
  simp [withBook, other]

@[simp] theorem armed_withBook : (l.withBook key book).armed = l.armed := rfl

@[simp] theorem held_withBook : (l.withBook key book).held = l.held := rfl

@[simp] theorem books_withPoint : (l.withPoint point on).books = l.books := rfl

@[simp] theorem held_withPoint : (l.withPoint point on).held = l.held := rfl

end

variable {d : Desk} {tx : Transaction} {key : WalletKey}

@[simp] theorem run_fail {α : Type} {e : WalletError} :
    (fail e : LedgerM α).run d = .error (.failed e) d := rfl

@[simp] theorem run_failIf {c : Prop} [Decidable c] {e : WalletError} :
    (failIf c e).run d = if c then .error (.failed e) d else .ok () d := by
  unfold failIf
  split <;> rfl

@[simp] theorem run_note {e : LogEvent} :
    (note e).run d = .ok () { d with log := d.log ++ [e] } := rfl

@[simp] theorem run_noteIf {c : Prop} [Decidable c] {e : LogEvent} :
    (noteIf c e).run d = .ok () { d with log := if c then d.log ++ [e] else d.log } := by
  unfold noteIf
  split <;> rfl

@[simp] theorem run_report {a : AdminAction} :
    (report a).run d = .ok () { d with reports := d.reports ++ [a] } := rfl

/-- A point that is armed fails once. -/
@[simp] theorem run_trip {point : FailPoint} :
    (trip point).run d =
      if d.ledger.armed point then
        .error (.failed (.persistence (.injected point)))
          { d with ledger := d.ledger.withPoint point false }
      else .ok () d := by
  simp only [trip, EStateM.run_bind, EStateM.run_get]
  split <;> rfl

/-- The book of a wallet can be read unless the wallet is held. -/
@[simp] theorem run_book? :
    (book? key).run d =
      match d.ledger.books key with
      | none => .ok none d
      | some book => if d.ledger.isHeld key then .error .waiting d else .ok (some book) d := by
  simp only [book?, EStateM.run_bind, EStateM.run_get]
  cases d.ledger.books key with
  | none => rfl
  | some book =>
    by_cases held : d.ledger.isHeld key
    · simp only [held, if_true]
      rfl
    · simp [held]

/-- A transaction opens on the committed book of a wallet that nothing else holds. -/
@[simp] theorem run_begin :
    (begin key).run d =
      match d.ledger.books key with
      | none => .error (.failed (.notFound (.wallet key.walletId))) d
      | some book =>
        if d.ledger.isHeld key then .error .waiting d else .ok (.opened key book) d := by
  simp only [begin, EStateM.run_bind, run_book?]
  cases d.ledger.books key with
  | none => rfl
  | some book =>
    by_cases held : d.ledger.isHeld key <;> simp [held]

@[simp] theorem run_insertEntry {e : Entry} :
    (tx.insertEntry e).run d =
      if d.ledger.armed .insertEntry then
        .error (.failed (.persistence (.injected .insertEntry)))
          { d with ledger := d.ledger.withPoint .insertEntry false }
      else if (tx.entry? e.idempotencyKey).isSome then
        .error (.failed (.persistence (.duplicateKey e.idempotencyKey))) d
      else .ok { tx with newEntries := tx.newEntries ++ [e] } d := by
  simp only [Transaction.insertEntry, EStateM.run_bind, run_trip, run_failIf]
  by_cases armed : d.ledger.armed .insertEntry
  · simp [armed]
  · by_cases used : (tx.entry? e.idempotencyKey).isSome <;> simp [armed, used]

@[simp] theorem run_applyDelta {currency : String} {delta : Minor} {now : Instant} :
    (tx.applyDelta currency delta now).run d =
      if d.ledger.armed .applyDelta then
        .error (.failed (.persistence (.injected .applyDelta)))
          { d with ledger := d.ledger.withPoint .applyDelta false }
      else
        match Balance.moved? tx.book.wallet tx.balance currency delta now with
        | some b => .ok (b, { tx with newBalance := some b }) d
        | none => .error (.failed (.persistence .balanceOverflow)) d := by
  simp only [Transaction.applyDelta, EStateM.run_bind, run_trip]
  by_cases armed : d.ledger.armed .applyDelta
  · simp [armed]
  · simp only [armed]
    cases Balance.moved? tx.book.wallet tx.balance currency delta now <;> rfl

@[simp] theorem run_insertAction {a : AdminAction} :
    (tx.insertAction a).run d =
      if d.ledger.armed .insertAdminAction then
        .error (.failed (.persistence (.injected .insertAdminAction)))
          { d with ledger := d.ledger.withPoint .insertAdminAction false }
      else .ok { tx with newActions := tx.newActions ++ [a] } d := by
  simp only [Transaction.insertAction, EStateM.run_bind, run_trip]
  by_cases armed : d.ledger.armed .insertAdminAction <;> simp [armed]

/-- A commit puts the view of the transaction in the place of the book. -/
@[simp] theorem run_commit :
    tx.commit.run d =
      if d.ledger.armed .commit then
        .error (.failed (.persistence (.injected .commit)))
          { d with ledger := d.ledger.withPoint .commit false }
      else .ok () { d with ledger := d.ledger.withBook tx.key tx.view } := by
  simp only [Transaction.commit, EStateM.run_bind, run_trip]
  by_cases armed : d.ledger.armed .commit <;> simp [armed]

@[simp] theorem run_refuse {cause : Option Refusal} :
    (refuse cause).run d =
      match cause with
      | some cause => .error (.failed (.invalidArgument cause)) d
      | none => .ok () d := by
  cases cause <;> rfl

@[simp] theorem run_checkFunds {p : Posting} :
    (checkFunds p tx).run d =
      match shortfall? p tx.balance with
      | some e => .error (.failed e) d
      | none => .ok () d := by
  unfold checkFunds
  cases shortfall? p tx.balance <;> rfl

/-- A replay writes to the log only: a difference to what is stored, and the replay itself. -/
theorem run_replay {p : Posting} {stored : Entry} :
    (replay key p tx stored).run d =
      let log :=
        if stored.amount ≠ p.signed ∨ stored.entryType ≠ p.kind.entryType then
          d.log ++ [.keyReused key p.idempotencyKey stored.amount p.signed]
        else d.log
      match tx.balance with
      | none => .error (.failed (.notFound (.balance key.walletId))) { d with log }
      | some b =>
        .ok ⟨stored, b, p.storedAction? tx stored, true⟩
          { d with log := log ++ [.replayed key stored.id] } := by
  simp only [replay, EStateM.run_bind, run_noteIf]
  cases tx.balance <;> rfl

end CallExchange.Ledger
