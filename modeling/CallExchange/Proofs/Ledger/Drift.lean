import CallExchange.Proofs.Ledger.PrivateCopy
import CallExchange.Proofs.Ledger.Reconciliation

/-!
# Where drift comes from

A raw transaction writes entries and moves the projection as it likes, so that the two need not
agree. What they differ by can be told from the answers that the raw transactions of the wallet got:
it is what they have moved the projection by, less what they have entered, as far as they were
committed. The service adds an entry and moves the projection by its amount, and neither adds to the
difference nor takes from it, whatever the books looked like before.

## Main definitions

* `RawWork` — the movements and the entries of a raw transaction that succeeded
* `Journal` — the raw transactions of a run, as their answers tell of them
* `journal` — the journal of a run
* `Ledger.drift` — the drift of a wallet
* `Accounted` — the journal accounts for the drift of books and of open transactions

## Main results

* `Book.drift_recorded`, `drift_of_serves` — the service leaves the drift as it is
* `Accounted.step` — an operation changes the drift by what the journal notes of it
* `drift_of_run` — in every run the drift is that of the journal, and reconciliations report it
-/

namespace CallExchange

namespace Ledger

/-! ### Journals -/

/-- What has succeeded in a raw transaction on a wallet. -/
structure RawWork where
  key : WalletKey
  /-- What the projection has been moved by. -/
  deltas : List Minor
  /-- The amounts of the entries. -/
  amounts : List Minor

namespace RawWork

/-- By how much the movements exceed the entries. -/
def drift (w : RawWork) : Int := (w.deltas.map (·.toInt)).sum - (w.amounts.map (·.toInt)).sum

/-- The work with one more operation that has succeeded. -/
def record (w : RawWork) : TxOp → RawWork
  | .applyDelta _ delta => { w with deltas := w.deltas ++ [delta] }
  | .insertEntry draft => { w with amounts := w.amounts ++ [draft.amount] }
  | .insertAction _ | .wallet | .entries | .findEntry _ | .findAction _ | .balance => w

end RawWork

/-- The raw transactions of a run: those that are open, by their names, and those that have been
committed. -/
structure Journal where
  opened : String → Option RawWork
  committed : List RawWork

namespace Journal

/-- No raw transactions. -/
def blank : Journal := ⟨fun _ => none, []⟩

/-- The journal with other work under a name, or none. -/
def put (j : Journal) (name : String) (w : Option RawWork) : Journal :=
  { j with opened := fun n => if n = name then w else j.opened n }

/-- The journal after an operation and its answer. Work that fails is not noted, and a transaction
that is not committed is forgotten. -/
def note (j : Journal) (op : Op) (answer : Except (Halt WalletError) Answer) : Journal :=
  match op, answer with
  | .begin name key, .ok _ => j.put name (some ⟨key, [], []⟩)
  -- where no transaction is open, there is no work under the name that could be added to
  | .inside name work, .ok _ => j.put name ((j.opened name).map (·.record work))
  | .commit name, .ok _ =>
    { j.put name none with committed := j.committed ++ (j.opened name).toList }
  | .begin name _, .error _ | .commit name, .error _ | .rollback name, _ => j.put name none
  | _, _ => j

/-- What the committed raw transactions of a wallet come to. -/
def drift (j : Journal) (key : WalletKey) : Int :=
  ((j.committed.filter fun w => w.key = key).map RawWork.drift).sum

end Journal

/-- The journal of a run. -/
def journal (l : Ledger) (j : Journal) : List (Stamp × Op) → Journal
  | [] => j
  | (stamp, op) :: rest =>
    journal (step stamp l op).ledger (j.note op (step stamp l op).answer) rest

/-- The drift of a wallet; one that does not exist has none. -/
def drift (l : Ledger) (key : WalletKey) : Int := (l.books key).elim 0 Book.drift

end Ledger

/-- The drift that a transaction has added to that of the book it has been opened on. -/
def Transaction.drift (tx : Transaction) : Int := tx.view.drift - tx.book.drift

theorem Transaction.drift_opened (key : WalletKey) (book : Book) :
    (Transaction.opened key book).drift = 0 := by
  rw [Transaction.drift, Transaction.view_opened]
  exact Int.sub_self _

open Ledger

variable {l next : Ledger} {stamp : Stamp} {op : Op} {key : WalletKey} {name : String}
  {book : Book} {tx : Transaction} {p : Posting} {b : Balance} {work : TxOp} {j : Journal}
  {script : List (Stamp × Op)}

/-! ### The service -/

/-- A posting adds its amount to the entries and to the projection, whatever they were before. -/
theorem Book.drift_recorded (a : Option AdminAction)
    (moved : Balance.moved? book.wallet book.balance p.currency p.signed stamp.now = some b) :
    (book.recorded (p.entry stamp key) b a).drift = book.drift := by
  have amount : b.amount.toInt = book.projected + p.signed.toInt := (Balance.of_moved? moved).1
  have projected : (book.recorded (p.entry stamp key) b a).projected = b.amount.toInt := rfl
  have entered : Entry.total (book.recorded (p.entry stamp key) b a).entries =
      Entry.total book.entries + p.signed.toInt := by
    simp [Book.recorded]
  rw [Book.drift, Book.drift, projected, entered, amount]
  omega

namespace Ledger

theorem drift_of_stored (stored : l.books key = some book) : l.drift key = book.drift := by
  simp only [drift, stored, Option.elim_some]

theorem drift_withBook (same : book.drift = l.drift key) (k : WalletKey) :
    (l.withBook key book).drift k = l.drift k := by
  by_cases own : k = key
  · subst own
    rw [drift_of_stored books_withBook_self, same]
  · simp only [drift, books_withBook_of_ne own]

/-- An operation of the service leaves the drift of every wallet as it is. -/
theorem drift_of_serves (l : Ledger) (stamp : Stamp) (serves : op.serves = true) (k : WalletKey) :
    (step stamp l op).ledger.drift k = l.drift k := by
  cases effect_step l stamp serves with
  | same ledger => rw [ledger]
  | point ledger =>
    rw [ledger]
    rfl
  | created missing ledger =>
    rw [ledger]
    refine drift_withBook ?_ k
    simp only [drift, missing]
    rfl
  | written writes moved ledger =>
    rw [ledger]
    refine drift_withBook ?_ k
    rw [drift_of_stored writes.stored]
    exact Book.drift_recorded _ moved

/-! ### Raw work -/

@[simp] theorem key_record (w : RawWork) (work : TxOp) : (w.record work).key = w.key := by
  cases work <;> rfl

/-- What is noted of an operation that succeeds is what it does to the drift of the copy. -/
theorem drift_record (w : RawWork) {armed : FailPoint → Bool} {copy result : Book} {answer : Answer}
    (performed : work.perform stamp key armed copy = .ok (answer, result)) :
    (w.record work).drift = w.drift + (result.drift - copy.drift) := by
  have ends := performs stamp key armed copy work
  rw [performed] at ends
  cases ends with
  | read reads =>
    have silent : w.record work = w := by
      cases work with
      | insertEntry | applyDelta | insertAction => cases reads
      | wallet | entries | findEntry | findAction | balance => rfl
    rw [silent]
    omega
  | @entry draft =>
    have entered : Entry.total (copy.entries ++ [draft.toEntry key stamp.now]) =
        Entry.total copy.entries + draft.amount.toInt := by
      simp [EntryDraft.toEntry]
    have noted : ((w.amounts ++ [draft.amount]).map (·.toInt)).sum =
        (w.amounts.map (·.toInt)).sum + draft.amount.toInt := by
      simp
    simp only [RawWork.record, RawWork.drift, Book.drift, Book.projected, entered, noted]
    omega
  | @balance currency delta b moved =>
    have amount : b.amount.toInt = copy.projected + delta.toInt := (Balance.of_moved? moved).1
    have noted : ((w.deltas ++ [delta]).map (·.toInt)).sum =
        (w.deltas.map (·.toInt)).sum + delta.toInt := by
      simp
    have shown : Book.projected { copy with balance := some b } = b.amount.toInt := rfl
    simp only [RawWork.record, RawWork.drift, Book.drift, noted, shown, amount]
    omega
  | action => simp [RawWork.record, Book.drift, Book.projected]

/-- One more committed transaction counts for its own wallet. -/
theorem Journal.drift_concat (w : RawWork) (k : WalletKey) :
    Journal.drift { j with committed := j.committed ++ [w] } k =
      j.drift k + if w.key = k then w.drift else 0 := by
  by_cases same : w.key = k <;> simp [Journal.drift, List.filter_append, same]

/-! ### The account of a run -/

/-- The journal accounts for the drift of the books, and for what open transactions have added to
it. -/
structure Accounted (l : Ledger) (j : Journal) : Prop where
  opened : ∀ name, (l.held? name).map (fun tx => (tx.key, tx.drift)) =
    (j.opened name).map fun w => (w.key, w.drift)
  settled : ∀ key, l.drift key = j.drift key

theorem accounted_empty : Accounted .empty .blank := ⟨fun _ => rfl, fun _ => rfl⟩

namespace Accounted

theorem of_open (accounted : Accounted l j) (opened : l.held? name = some tx) :
    ∃ w, j.opened name = some w ∧ w.key = tx.key ∧ w.drift = tx.drift := by
  have same := accounted.opened name
  rw [opened, Option.map_some, eq_comm, Option.map_eq_some_iff] at same
  obtain ⟨w, noted, same⟩ := same
  obtain ⟨key, drift⟩ := Prod.mk.inj same
  exact ⟨w, noted, key, drift⟩

theorem of_closed (accounted : Accounted l j) (closed : l.held? name = none) :
    j.opened name = none := by
  have same := accounted.opened name
  rw [closed, Option.map_none, eq_comm, Option.map_eq_none_iff] at same
  exact same

/-- What happens to one transaction is put in its place in the journal. -/
theorem put {w : Option RawWork} (accounted : Accounted l j)
    (others : ∀ {n}, name ≠ n → next.held? n = l.held? n)
    (own : (next.held? name).map (fun tx => (tx.key, tx.drift)) = w.map fun w => (w.key, w.drift))
    (kept : ∀ k, next.drift k = l.drift k) : Accounted next (j.put name w) where
  opened n := by
    by_cases named : n = name
    · subst named
      simpa only [Journal.put, if_true] using own
    · simpa only [Journal.put, named, if_false, others (Ne.symm named)] using accounted.opened n
  settled k := (kept k).trans (accounted.settled k)

theorem release (accounted : Accounted l j) (name : String) :
    Accounted (l.release name) (j.put name none) :=
  accounted.put held?_release_of_ne (by rw [held?_release_self]; rfl) fun _ => rfl

theorem closed (accounted : Accounted l j) (closed : l.held? name = none) :
    Accounted l (j.put name none) :=
  accounted.put (fun _ => rfl) (by rw [closed]; rfl) fun _ => rfl

/-- The armed points do not matter. -/
theorem of_same (accounted : Accounted l j) (held : next.held = l.held)
    (kept : ∀ k, next.drift k = l.drift k) : Accounted next j where
  opened name := by
    rw [← accounted.opened name, held?, held?, held]
  settled k := (kept k).trans (accounted.settled k)

theorem begun (accounted : Accounted l j) :
    Accounted ((l.release name).hold name (.opened key book)) (j.put name (some ⟨key, [], []⟩)) := by
  apply accounted.put
  · intro n apart
    rw [held?_hold_of_ne apart, held?_release_of_ne apart]
  · -- nothing has been written, and nothing noted
    rw [held?_hold_self, Option.map_some, Option.map_some, Transaction.drift_opened]
    rfl
  · intro k
    rfl

/-- A step inside a transaction is noted when it succeeds. -/
theorem inside (accounted : Accounted l j) (stamp : Stamp) (name : String) (work : TxOp) :
    Accounted (Ledger.step stamp l (.inside name work)).ledger
      (j.note (.inside name work) (Ledger.step stamp l (.inside name work)).answer) := by
  cases opened : l.held? name with
  | none =>
    rw [step_inside, opened]
    simp only [Journal.note, accounted.of_closed opened, Option.map_none]
    exact accounted.closed opened
  | some tx =>
    cases performed : work.perform stamp tx.key l.armed tx.view with
    | error e =>
      rw [step_inside_of_error opened performed]
      exact accounted.of_same rfl fun _ => rfl
    | ok result =>
      obtain ⟨w, noted, place, added⟩ := accounted.of_open opened
      obtain ⟨tx', view, key, origin, stepped⟩ := step_inside_of_ok opened performed
      rw [stepped]
      simp only [Journal.note, noted]
      apply accounted.put
      · intro n apart
        exact held?_replace_of_ne apart
      · -- the transaction has drifted by as much as the operation moves its view
        have drifted : tx'.drift = tx.drift + (result.2.drift - tx.view.drift) := by
          rw [Transaction.drift, Transaction.drift, view, origin]
          omega
        rw [held?_replace_self opened, Option.map_some, Option.map_some, Option.map_some,
          key_record, drift_record w performed, key, drifted, place, added]
      · intro k
        rfl

/-- A commit makes the drift of the transaction that of its book. -/
theorem committed (accounted : Accounted l j) (exclusive : Exclusive l)
    (opened : l.held? name = some tx) :
    Accounted ((l.release name).withBook tx.key tx.view)
      { j.put name none with committed := j.committed ++ (j.opened name).toList } := by
  obtain ⟨w, noted, place, added⟩ := accounted.of_open opened
  have ended := accounted.release name
  rw [noted]
  refine ⟨ended.opened, fun k => ?_⟩
  change _ = Journal.drift { j with committed := j.committed ++ [w] } k
  rw [Journal.drift_concat, ← accounted.settled, place]
  by_cases own : tx.key = k
  · subst own
    -- the book has not changed since the transaction has been opened on it
    rw [drift_of_stored books_withBook_self, drift_of_stored (exclusive.stored opened), if_pos rfl,
      added, Transaction.drift]
    omega
  · rw [if_neg own, Int.add_zero]
    simp only [drift, books_withBook_of_ne (Ne.symm own), books_release]

/-- An operation changes the drift by what the journal notes of it. -/
theorem step (accounted : Accounted l j) (exclusive : Exclusive l) (stamp : Stamp) (op : Op) :
    Accounted (Ledger.step stamp l op).ledger (j.note op (Ledger.step stamp l op).answer) := by
  cases op with
  | begin name key =>
    -- what was open under the name is given up, whether the new transaction opens or not
    rw [step_begin]
    cases l.books key with
    | none => exact accounted.release name
    | some book =>
      by_cases held : (l.release name).isHeld key
      · simp only [held, if_true]
        exact accounted.release name
      · simp only [held]
        exact accounted.begun
  | inside name work => exact accounted.inside stamp name work
  | commit name =>
    rw [step_commit]
    cases opened : l.held? name with
    | none =>
      simp only [Journal.note, accounted.of_closed opened, Option.toList_none, List.append_nil]
      exact accounted.closed opened
    | some tx =>
      by_cases armed : l.armed .commit
      · -- the transaction is gone, and no book has changed
        simp only [armed, if_true]
        exact (accounted.release name).of_same rfl fun _ => rfl
      · simp only [armed]
        exact accounted.committed exclusive opened
  | rollback name =>
    rw [step_rollback]
    cases closed : l.held? name with
    | none => exact accounted.closed closed
    | some tx => exact accounted.release name
  | _ => exact accounted.of_same (held_step rfl) (drift_of_serves l stamp rfl)

/-- A run changes the drift by what its journal says. -/
theorem after (accounted : Accounted l j) (exclusive : Exclusive l)
    (script : List (Stamp × Op)) : Accounted (Ledger.after l script) (journal l j script) := by
  -- the journal of the first ledger becomes the one that the rest of the run starts with
  induction script generalizing l j with
  | nil => exact accounted
  | cons s script ih =>
    rw [after_cons]
    exact ih (accounted.step exclusive s.1 s.2) (exclusive.step s.1 s.2)

end Accounted

/-! ### Reports -/

/-- What a reconciliation of a wallet answers, given by how much the wallet has drifted. -/
structure Reports (l : Ledger) (stamp : Stamp) (key : WalletKey) (drift : Int) : Prop where
  /-- A key with a blank part is refused, whether there is a wallet under it or not. -/
  unnamed : ∀ {cause}, key.refusal? = some cause →
    (step stamp l (.reconcile key)).answer = .error (.failed (.invalidArgument cause))
  waits : ∀ {book}, l.books key = some book → key.refusal? = none → l.isHeld key = true →
    (step stamp l (.reconcile key)).answer = .error .waiting
  /-- Of a wallet that nobody holds the sum, the projection and the number of entries are reported,
  provided that the entries can be added up. -/
  reports : ∀ {book}, l.books key = some book → key.refusal? = none → l.isHeld key = false →
    Entry.Summable book.entries → ∃ r,
      (step stamp l (.reconcile key)).answer = .ok (.reconciliation r) ∧ book.Reconciles r ∧
        (r.isConsistent = true ↔ drift = 0 ∧ (book.balance.isSome ∨ book.entries = []))

theorem reports_drift (l : Ledger) (stamp : Stamp) (key : WalletKey) :
    Reports l stamp key (l.drift key) where
  unnamed refused := answer_reconcile_of_refusal stamp refused
  waits stored named held := by
    have checked : (Op.reconcile key).objection? = none := named
    rw [step_of_held rfl checked stored held]
  reports stored named free summable := by
    obtain ⟨r, answer, reconciles⟩ := answer_reconcile_of_summable stamp named stored free summable
    rw [drift_of_stored stored]
    exact ⟨r, answer, reconciles, reconciles.isConsistent_iff⟩

/-- In every run of operations of the service and of raw transactions, the drift of a wallet is what
the journal says. Operations of the service leave it as it is, and reconciliations report it. -/
theorem drift_of_run (script : List (Stamp × Op)) :
    (∀ key, (after .empty script).drift key = (journal .empty .blank script).drift key) ∧
      (∀ {op : Op}, op.serves = true → ∀ stamp key,
        (step stamp (after .empty script) op).ledger.drift key =
          (after .empty script).drift key) ∧
      (∀ {key book}, (after .empty script).books key = some book →
        book.drift = (journal .empty .blank script).drift key) ∧
      ∀ stamp key, Reports (after .empty script) stamp key
        ((journal .empty .blank script).drift key) := by
  have accounted := accounted_empty.after exclusive_empty script
  refine ⟨accounted.settled, fun serves stamp key => drift_of_serves _ stamp serves key, ?_, ?_⟩
  · intro key book stored
    exact (drift_of_stored stored).symm.trans (accounted.settled key)
  · intro stamp key
    rw [← accounted.settled key]
    exact reports_drift _ stamp key

/-- After the sample transaction on a new wallet, in which one entry and two movements succeed, and a
credit, the wallet has drifted by five. To reconcile a wallet without a workspace is refused. -/
theorem drift_of_sampleTransaction :
    let script := (sampleStamp 0, .createWallet (sampleWallet sampleKey)) ::
      (sampleStamp 1, .begin "raw" sampleKey) :: sampleTransaction ++
        [(sampleStamp 10, .commit "raw"),
          (sampleStamp 11, .credit sampleKey (samplePosting 100 "later"))]
    ∃ book r, (after .empty script).books sampleKey = some book ∧ book.drift = 5 ∧
      Entry.Summable book.entries ∧
      (step (sampleStamp 12) (after .empty script) (.reconcile sampleKey)).answer =
        .ok (.reconciliation r) ∧
      book.Reconciles r ∧ r.isConsistent = false ∧
      (step (sampleStamp 12) (after .empty script) (.reconcile ⟨"", "main"⟩)).answer =
        .error (.failed (.invalidArgument .workspaceIdRequired)) := by
  intro script
  have stored : (after .empty script).books sampleKey = some _ := rfl
  obtain ⟨-, -, drift, reports⟩ := drift_of_run script
  have noted : (journal .empty .blank script).drift sampleKey = 5 := by decide +kernel
  have named : sampleKey.refusal? = none := by decide
  have free : (after .empty script).isHeld sampleKey = false := by decide +kernel
  have sum : (((after .empty script).books sampleKey).bind fun book =>
      Minor.sum? (book.entries.map (·.amount))) = some 105 := by decide +kernel
  rw [stored, Option.bind_some] at sum
  have summable := (Entry.sum?_eq_some_iff.mp sum).1
  obtain ⟨r, answer, reconciles, consistent⟩ :=
    (reports (sampleStamp 12) sampleKey).reports stored named free summable
  rw [noted] at consistent
  have drifted : r.isConsistent = false := by simpa using consistent
  exact ⟨_, r, stored, (drift stored).trans noted, summable, answer, reconciles, drifted,
    (reports (sampleStamp 12) ⟨"", "main"⟩).unnamed (by decide)⟩

/-- To reconcile a wallet with a blank name is refused, although it may have no entries. -/
theorem reconcile_of_blank_wallet :
    ¬ ∀ (script : List (Stamp × Op)) (stamp : Stamp) (key : WalletKey) (book : Book),
      (after .empty script).books key = some book → (after .empty script).isHeld key = false →
        Entry.Summable book.entries →
          ∃ r, (step stamp (after .empty script) (.reconcile key)).answer =
            .ok (.reconciliation r) ∧ book.Reconciles r := by
  intro claim
  let key : WalletKey := ⟨"acme", ""⟩
  have refused : key.refusal? = some .walletIdRequired := by decide
  obtain ⟨r, answer, -⟩ := claim [(sampleStamp 0, .createWallet (sampleWallet key))] (sampleStamp 1)
    key _ rfl rfl Entry.summable_nil
  cases (answer_reconcile_of_refusal (sampleStamp 1) refused).symm.trans answer

end Ledger

end CallExchange
