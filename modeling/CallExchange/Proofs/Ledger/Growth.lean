import CallExchange.Proofs.Ledger.Transactions

/-!
# Books only grow

Nothing that can happen to a ledger takes an entry or an action out of a book, moves one, or changes
the wallet. A posting appends to the committed book, and so does the commit of a transaction: the
book that the transaction was opened on is still the committed one.

## Main definitions

* `Book.Extends` — a later state of the same book
* `Ledger.Grows` — every book has a later state

## Main results

* `grows_step`, `grows_after` — books grow in every operation, and so in every run
-/

namespace CallExchange

/-- A book to which a later one has only added. -/
structure Book.Extends (old new : Book) : Prop where
  wallet : new.wallet = old.wallet
  entries : old.entries <+: new.entries
  actions : old.actions <+: new.actions
  balance : old.balance.isSome → new.balance.isSome

namespace Book.Extends

variable {old middle new : Book}

theorem refl (book : Book) : book.Extends book := ⟨rfl, List.prefix_rfl, List.prefix_rfl, id⟩

theorem trans (first : old.Extends middle) (second : middle.Extends new) : old.Extends new where
  wallet := second.wallet.trans first.wallet
  entries := first.entries.trans second.entries
  actions := first.actions.trans second.actions
  balance := fun projected => second.balance (first.balance projected)

theorem recorded (book : Book) (e : Entry) (b : Balance) (a : Option AdminAction) :
    book.Extends (book.recorded e b a) :=
  ⟨rfl, List.prefix_append _ _, List.prefix_append _ _, fun _ => rfl⟩

theorem view (tx : Transaction) : tx.book.Extends tx.view where
  wallet := rfl
  entries := List.prefix_append _ _
  actions := List.prefix_append _ _
  balance := by
    simp only [Transaction.view, Transaction.balance]
    cases tx.newBalance <;> simp

/-- The entry with a key stays the entry with that key. -/
theorem stored (grown : old.Extends new) {key : String} {e : Entry}
    (used : Entry.find? old.entries key = some e) : Entry.find? new.entries key = some e :=
  grown.entries.find?_eq_some used

end Book.Extends

namespace Ledger

variable {l middle next : Ledger} {key : WalletKey} {book new : Book}

/-- Every book of the ledger has a later state in the next one. -/
def Grows (l next : Ledger) : Prop :=
  ∀ key book, l.books key = some book → ∃ new, next.books key = some new ∧ book.Extends new

theorem Grows.trans (first : Grows l middle) (second : Grows middle next) : Grows l next := by
  intro key book stored
  obtain ⟨later, stored, extended⟩ := first key book stored
  obtain ⟨last, stored, further⟩ := second key later stored
  exact ⟨last, stored, extended.trans further⟩

theorem grows_of_books (kept : next.books = l.books) : Grows l next := by
  intro key book stored
  exact ⟨book, kept ▸ stored, .refl book⟩

/-- One book may be replaced by a later state of it. -/
theorem grows_withBook (extended : ∀ book, l.books key = some book → book.Extends new) :
    Grows l (l.withBook key new) := by
  intro k book stored
  by_cases same : k = key
  · subst same
    exact ⟨new, books_withBook_self, extended book stored⟩
  · exact ⟨book, (books_withBook_of_ne same).trans stored, .refl book⟩

theorem Effect.grows {stamp : Stamp} (effect : Effect l stamp next) : Grows l next := by
  cases effect with
  | same ledger => exact grows_of_books (by rw [ledger])
  | point ledger => exact grows_of_books (by rw [ledger, books_withPoint])
  | created missing ledger =>
    refine ledger ▸ grows_withBook fun book stored => ?_
    cases missing.symm.trans stored
  | written writes _ ledger =>
    refine ledger ▸ grows_withBook fun book stored => ?_
    cases writes.stored.symm.trans stored
    exact .recorded _ _ _ _

theorem grows_step (exclusive : Exclusive l) (stamp : Stamp) (op : Op) :
    Grows l (step stamp l op).ledger := by
  cases move_step l stamp op with
  | effect effect => exact effect.grows
  | begun _ _ ledger => exact grows_of_books (by rw [ledger, books_hold, books_release])
  | worked _ _ ledger => exact grows_of_books (by rw [ledger, books_replace])
  | released ledger => exact grows_of_books (by rw [ledger, books_release])
  | interrupted ledger => exact grows_of_books (by rw [ledger, books_withPoint, books_release])
  | committed opened ledger =>
    -- the transaction's view extends the committed book since that is the one it was opened on
    refine ledger ▸ (grows_of_books books_release).trans (grows_withBook fun book stored => ?_)
    cases (exclusive.stored opened).symm.trans stored
    exact .view _

/-- In every run books only grow. -/
theorem grows_after (exclusive : Exclusive l) (script : List (Stamp × Op)) :
    Grows l (after l script) := by
  induction script generalizing l with
  | nil => exact grows_of_books rfl
  | cons s script ih => exact (grows_step exclusive s.1 s.2).trans (ih (exclusive.step s.1 s.2))

end Ledger

end CallExchange
