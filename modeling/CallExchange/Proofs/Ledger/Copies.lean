import CallExchange.Proofs.Ledger.Soundness
import CallExchange.Proofs.Ledger.Transactions
import Mathlib.Algebra.Ring.Int.Defs

/-!
# Work on a copy of a book

A transaction keeps what it writes apart from the committed book, and each of its operations puts the
two together in its own way: rows are looked up in one list after the other, while a new balance
hides the committed one. All of them do what they would do to a plain book that looks like what the
transaction sees, where rows are appended at the end and the balance is replaced.

## Main definitions

* `TxOp.perform` — an operation on a copy of a book
* `Instruction` — an operation with the moment and the armed fail points that it meets
* `Book.replies`, `Book.worked` — the answers of a copy to instructions, and the copy after them
* `Book.movements` — the movements of the balance among them that succeed

## Main results

* `performs` — an operation on a copy fails, reads, or writes one kind of row
* `Book.balance_worked` — the balance of a copy is what the movements have added up to
* `step_inside_of_ok`, `step_inside_of_error` — an operation inside a transaction does what it does to
  a copy that looks like the transaction's view
-/

namespace CallExchange

namespace Ledger

/-! ### Work on a copy -/

/-- What an operation comes to on a copy of a book: the answer with the copy after it, or an error,
which leaves the copy as it is. An armed point on its way makes it fail. -/
def TxOp.perform (stamp : Stamp) (key : WalletKey) (armed : FailPoint → Bool) (copy : Book) :
    TxOp → Except WalletError (Answer × Book)
  | .insertEntry draft =>
    let e := draft.toEntry key stamp.now
    if armed .insertEntry then .error (.persistence (.injected .insertEntry))
    else if (Entry.find? copy.entries e.idempotencyKey).isSome then
      .error (.persistence (.duplicateKey e.idempotencyKey))
    else .ok (.done, { copy with entries := copy.entries ++ [e] })
  | .applyDelta currency delta =>
    if armed .applyDelta then .error (.persistence (.injected .applyDelta))
    else
      match Balance.moved? copy.wallet copy.balance currency delta stamp.now with
      | none => .error (.persistence .balanceOverflow)
      | some b => .ok (.balance b, { copy with balance := some b })
  | .insertAction draft =>
    if armed .insertAdminAction then .error (.persistence (.injected .insertAdminAction))
    else .ok (.done, { copy with actions := copy.actions ++ [draft.toAction key stamp.now] })
  | .wallet => .ok (.wallet copy.wallet, copy)
  | .entries => .ok (.entries copy.entries, copy)
  | .findEntry idempotencyKey => .ok (.maybeEntry (Entry.find? copy.entries idempotencyKey), copy)
  | .findAction entryId => .ok (.maybeAction (AdminAction.find? copy.actions entryId), copy)
  | .balance => .ok (.maybeBalance copy.balance, copy)

/-- The operation only reads. -/
def TxOp.reads : TxOp → Bool
  | .insertEntry _ | .applyDelta .. | .insertAction _ => false
  | .wallet | .entries | .findEntry _ | .findAction _ | .balance => true

/-- The ends of an operation on a copy: it fails, or it reads, or it writes one kind of row. -/
inductive Performs (stamp : Stamp) (key : WalletKey) (copy : Book) :
    TxOp → Except WalletError (Answer × Book) → Prop
  | failed {work : TxOp} {e : WalletError} : Performs stamp key copy work (.error e)
  | read {work : TxOp} {answer : Answer} (reads : work.reads = true) :
      Performs stamp key copy work (.ok (answer, copy))
  | entry {draft : EntryDraft} :
      Performs stamp key copy (.insertEntry draft)
        (.ok (.done, { copy with entries := copy.entries ++ [draft.toEntry key stamp.now] }))
  | balance {currency : String} {delta : Minor} {b : Balance}
      (moved : Balance.moved? copy.wallet copy.balance currency delta stamp.now = some b) :
      Performs stamp key copy (.applyDelta currency delta)
        (.ok (.balance b, { copy with balance := some b }))
  | action {draft : ActionDraft} :
      Performs stamp key copy (.insertAction draft)
        (.ok (.done, { copy with actions := copy.actions ++ [draft.toAction key stamp.now] }))

theorem performs (stamp : Stamp) (key : WalletKey) (armed : FailPoint → Bool) (copy : Book)
    (work : TxOp) : Performs stamp key copy work (work.perform stamp key armed copy) := by
  cases work with
  | insertEntry draft =>
    simp only [TxOp.perform]
    by_cases tripped : armed .insertEntry
    · simp only [tripped, if_true]
      exact .failed
    by_cases used : (Entry.find? copy.entries (draft.toEntry key stamp.now).idempotencyKey).isSome
    · simp only [tripped, used, if_true]
      exact .failed
    · simp only [tripped, used]
      exact .entry
  | applyDelta currency delta =>
    simp only [TxOp.perform]
    by_cases tripped : armed .applyDelta
    · simp only [tripped, if_true]
      exact .failed
    simp only [tripped]
    cases moved : Balance.moved? copy.wallet copy.balance currency delta stamp.now with
    | none => exact .failed
    | some b => exact .balance moved
  | insertAction draft =>
    simp only [TxOp.perform]
    by_cases tripped : armed .insertAdminAction
    · simp only [tripped, if_true]
      exact .failed
    · simp only [tripped]
      exact .action
  | wallet | entries | findEntry | findAction | balance => exact .read rfl

/-- An operation that is asked of a transaction, with its stamp and what is armed at that moment. -/
structure Instruction where
  stamp : Stamp
  armed : FailPoint → Bool
  work : TxOp

namespace Instruction

/-- What an instruction comes to on a copy. -/
def perform (i : Instruction) (key : WalletKey) (copy : Book) :
    Except WalletError (Answer × Book) :=
  i.work.perform i.stamp key i.armed copy

/-- The answer to an instruction. -/
def reply (i : Instruction) (key : WalletKey) (copy : Book) : Except WalletError Answer :=
  (i.perform key copy).map (·.1)

/-- The copy after an instruction; one that fails has changed nothing. -/
def result (i : Instruction) (key : WalletKey) (copy : Book) : Book :=
  match i.perform key copy with
  | .ok (_, next) => next
  | .error _ => copy

/-- The currency and the amount that an instruction moves the balance by. -/
def movement? (i : Instruction) (key : WalletKey) (copy : Book) : Option (String × Minor) :=
  match i.work, i.perform key copy with
  | .applyDelta currency delta, .ok _ => some (currency, delta)
  | _, _ => none

end Instruction

end Ledger

namespace Book

open Ledger

/-- The answers that a copy of a book gives to instructions, one after the other. -/
def replies (key : WalletKey) (copy : Book) : List Instruction → List (Except WalletError Answer)
  | [] => []
  | i :: rest => i.reply key copy :: replies key (i.result key copy) rest

/-- The copy after instructions. -/
def worked (key : WalletKey) (copy : Book) : List Instruction → Book
  | [] => copy
  | i :: rest => worked key (i.result key copy) rest

/-- The movements of the balance that succeed among instructions, in their order. -/
def movements (key : WalletKey) (copy : Book) : List Instruction → List (String × Minor)
  | [] => []
  | i :: rest => (i.movement? key copy).toList ++ movements key (i.result key copy) rest

variable {key : WalletKey} {copy : Book}

/-- One instruction moves the balance by its movement, if it makes one, and the first movement of all
settles the currency. -/
theorem balance_result (key : WalletKey) (copy : Book) (i : Instruction) :
    (i.result key copy).projected =
        copy.projected + (i.movement? key copy).elim 0 (fun m => m.2.toInt) ∧
      (i.result key copy).balance.map (·.currency) =
        (copy.balance.map (·.currency)).or ((i.movement? key copy).map (·.1)) := by
  obtain ⟨stamp, armed, work⟩ := i
  simp only [Instruction.result, Instruction.movement?, Instruction.perform]
  have ends := performs stamp key armed copy work
  generalize work.perform stamp key armed copy = performed at ends
  cases ends with
  | failed => cases work <;> simp
  | read reads =>
    cases work with
    | insertEntry | applyDelta | insertAction => cases reads
    | wallet | entries | findEntry | findAction | balance => simp
  | entry | action => simp [projected]
  | balance moved =>
    -- the row there is keeps its currency, and a new one has that of the movement
    obtain ⟨amount, -, row⟩ := Balance.of_moved? moved
    refine ⟨amount, ?_⟩
    cases before : copy.balance with
    | none =>
      rw [before] at row
      simp only [Option.elim_none, Prod.mk.injEq] at row
      simp [row]
    | some c =>
      rw [before] at row
      simp only [Option.elim_some, Prod.mk.injEq] at row
      simp [row]

/-- What a copy projects after instructions is what their movements have added up to, in the currency
of the row that was there or was created first. -/
theorem balance_worked (instructions : List Instruction) :
    (copy.worked key instructions).projected =
        copy.projected + ((copy.movements key instructions).map (·.2.toInt)).sum ∧
      (copy.worked key instructions).balance.map (·.currency) =
        (copy.balance.map (·.currency)).or
          ((copy.movements key instructions).head?.map (·.1)) := by
  -- the copy after the first instruction is the one that the others work on
  induction instructions generalizing copy with
  | nil => simp [worked, movements]
  | cons i rest ih =>
    obtain ⟨amount, currency⟩ := balance_result key copy i
    obtain ⟨later, kept⟩ := @ih (i.result key copy)
    rw [worked, movements, later, kept, amount, currency]
    cases i.movement? key copy with
    | none => simp
    | some m => simp [Int.add_assoc]

end Book

namespace Transaction

variable {tx : Transaction}

/-! ### The view of a transaction -/

theorem view_insert (e : Entry) :
    ({ tx with newEntries := tx.newEntries ++ [e] } : Transaction).view =
      { tx.view with entries := tx.view.entries ++ [e] } := by
  simp [view, balance, entries, actions]

theorem view_move (b : Balance) :
    ({ tx with newBalance := some b } : Transaction).view = { tx.view with balance := some b } := by
  simp [view, balance, entries, actions]

theorem view_record (a : AdminAction) :
    ({ tx with newActions := tx.newActions ++ [a] } : Transaction).view =
      { tx.view with actions := tx.view.actions ++ [a] } := by
  simp [view, balance, entries, actions]

end Transaction

namespace Ledger

variable {l : Ledger} {d : Desk} {stamp : Stamp} {op : Op} {key : WalletKey} {name : String}
  {book : Book} {tx tx' : Transaction} {work : TxOp} {script : List (Stamp × Op)}

/-- An operation inside a transaction comes to what the operation comes to on a copy. -/
inductive Reflects (tx : Transaction) (d : Desk) : Except WalletError (Answer × Book) →
    EStateM.Result (Halt WalletError) Desk (Answer × Transaction) → Prop
  | ok {answer : Answer} {tx' : Transaction} (key : tx'.key = tx.key) (book : tx'.book = tx.book) :
      Reflects tx d (.ok (answer, tx'.view)) (.ok (answer, tx') d)
  | error {e : WalletError} : Reflects tx d (.error e)
      (.error (.failed e)
        { d with ledger := { d.ledger with armed := e.disarmed d.ledger.armed } })

theorem reflects_run (stamp : Stamp) (work : TxOp) (tx : Transaction) (d : Desk) :
    Reflects tx d (work.perform stamp tx.key d.ledger.armed tx.view)
      ((work.run stamp tx).run d) := by
  cases work with
  | insertEntry draft =>
    -- the transaction looks keys up among all entries that it sees
    have lookup : tx.entry? (draft.toEntry tx.key stamp.now).idempotencyKey =
      Entry.find? tx.view.entries (draft.toEntry tx.key stamp.now).idempotencyKey := rfl
    simp only [TxOp.run, TxOp.perform, EStateM.run_bind, run_insertEntry, lookup]
    by_cases tripped : d.ledger.armed .insertEntry
    · simp only [tripped, if_true]
      exact .error
    by_cases used :
        (Entry.find? tx.view.entries (draft.toEntry tx.key stamp.now).idempotencyKey).isSome
    · simp only [tripped, used, if_true]
      exact .error
    · simp only [tripped, used]
      rw [← Transaction.view_insert]
      exact .ok rfl rfl
  | applyDelta currency delta =>
    -- the new balance hides the committed one, in the view as in the transaction
    have shown : tx.view.balance = tx.balance := rfl
    have wallet : tx.view.wallet = tx.book.wallet := rfl
    simp only [TxOp.run, TxOp.perform, EStateM.run_bind, run_applyDelta, shown, wallet]
    by_cases tripped : d.ledger.armed .applyDelta
    · simp only [tripped, if_true]
      exact .error
    simp only [tripped]
    cases Balance.moved? tx.book.wallet tx.balance currency delta stamp.now with
    | none => exact .error
    | some b =>
      change Reflects tx d (.ok (.balance b, { tx.view with balance := some b }))
        (.ok (.balance b, { tx with newBalance := some b }) d)
      rw [← Transaction.view_move]
      exact .ok rfl rfl
  | insertAction draft =>
    simp only [TxOp.run, TxOp.perform, EStateM.run_bind, run_insertAction]
    by_cases tripped : d.ledger.armed .insertAdminAction
    · simp only [tripped, if_true]
      exact .error
    · simp only [tripped]
      rw [← Transaction.view_record]
      exact .ok rfl rfl
  | wallet | entries | findEntry | findAction | balance => exact .ok rfl rfl

/-- An operation that succeeds on a copy of what a transaction sees succeeds inside the transaction,
which sees what the copy has become. -/
theorem step_inside_of_ok {answer : Answer} {copy : Book} (opened : l.held? name = some tx)
    (performed : work.perform stamp tx.key l.armed tx.view = .ok (answer, copy)) :
    ∃ tx', tx'.view = copy ∧ tx'.key = tx.key ∧ tx'.book = tx.book ∧
      step stamp l (.inside name work) = ⟨.ok answer, l.replace name tx', [], []⟩ := by
  have reflects := reflects_run stamp work tx (.of l)
  rw [step_inside, opened]
  simp only [Desk.of, performed] at reflects ⊢
  generalize (work.run stamp tx).run ⟨l, [], []⟩ = result at reflects
  cases reflects with
  | @ok _ tx' key book => exact ⟨tx', rfl, key, book, rfl⟩

/-- An operation that fails on a copy of what a transaction sees fails inside the transaction, which
stays as it is. -/
theorem step_inside_of_error {e : WalletError} (opened : l.held? name = some tx)
    (failed : work.perform stamp tx.key l.armed tx.view = .error e) :
    step stamp l (.inside name work) =
      ⟨.error (.failed e), { l with armed := e.disarmed l.armed }, [], []⟩ := by
  have reflects := reflects_run stamp work tx (.of l)
  rw [step_inside, opened]
  simp only [Desk.of, failed] at reflects ⊢
  generalize (work.run stamp tx).run ⟨l, [], []⟩ = result at reflects
  cases reflects with
  | error => rfl

end Ledger

end CallExchange
