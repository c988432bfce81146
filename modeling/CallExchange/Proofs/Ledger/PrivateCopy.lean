import CallExchange.Proofs.Ledger.Copies

/-!
# Transactions as private copies

Whoever works in a transaction cannot tell it from a copy of the book that is all his own, on which
every operation takes effect at once, whatever else happens to the ledger meanwhile. A commit puts
that copy in the place of the book, and any other end forgets it.

## Main definitions

* `dialogue`, `instructions` — what a run asks of the transaction of a name, and what it answers
* `Holds` — the transaction of a name is the only one on its wallet, and works on the committed book
* `LikeCopy` — how a transaction compares with a private copy

## Main results

* `Holds.elsewhere` — what happens elsewhere does not reach a transaction
* `Holds.run` — a transaction follows the copy throughout a run
* `private_copy` — every transaction of every run behaves like a copy of its own
-/

namespace CallExchange.Ledger

variable {l : Ledger} {stamp : Stamp} {op : Op} {key : WalletKey} {name : String} {book : Book}
  {tx tx' : Transaction} {work : TxOp} {script : List (Stamp × Op)}

/-! ### A transaction among other operations -/

/-- What an operation asks of the transaction of a name. -/
def Op.work? (name : String) : Op → Option TxOp
  | .inside n work => if n = name then some work else none
  | _ => none

/-- The operation ends the transaction of a name, if only to begin another one. -/
def Op.ends (name : String) : Op → Bool
  | .begin n _ | .commit n | .rollback n => n = name
  | _ => false

/-- The instructions that a run gives to the transaction of a name, and its answers. -/
def dialogue (name : String) (l : Ledger) :
    List (Stamp × Op) → List (Instruction × Except (Halt WalletError) Answer)
  | [] => []
  | (stamp, op) :: rest =>
    let o := step stamp l op
    match op.work? name with
    | some work => (⟨stamp, l.armed, work⟩, o.answer) :: dialogue name o.ledger rest
    | none => dialogue name o.ledger rest

/-- The instructions that a run gives to the transaction of a name. -/
def instructions (name : String) (l : Ledger) (script : List (Stamp × Op)) : List Instruction :=
  (dialogue name l script).map (·.1)

/-- A transaction is open under a name. It is the only one on its wallet, and it has been opened on
the book that is committed. -/
structure Holds (l : Ledger) (name : String) (tx : Transaction) : Prop where
  opened : l.held? name = some tx
  alone : ∀ h ∈ l.held, h.tx.key = tx.key → h.name = name
  stored : l.books tx.key = some tx.book

theorem holds_begin (stored : l.books key = some book)
    (free : (l.release name).isHeld key = false) :
    Holds ((l.release name).hold name (.opened key book)) name (.opened key book) where
  opened := held?_hold_self
  alone h mem same := by
    rcases List.mem_append.mp mem with old | new
    · exact absurd same (ne_of_free free (List.mem_of_mem_filter old))
    · rw [List.mem_singleton.mp new]
  stored := stored

namespace Holds

/-- Once the transaction has ended its wallet is free. -/
theorem released (holds : Holds l name tx) : (l.release name).isHeld tx.key = false := by
  simp only [isHeld, List.any_eq_false, decide_eq_true_eq]
  intro h mem same
  obtain ⟨mem, unnamed⟩ := List.mem_filter.mp mem
  simp [holds.alone h mem same] at unnamed

theorem isHeld (holds : Holds l name tx) : l.isHeld tx.key = true :=
  List.any_eq_true.mpr ⟨_, mem_of_held? holds.opened, by simp⟩

/-- The transaction may be replaced by one on the same book. -/
theorem replace (holds : Holds l name tx) (key : tx'.key = tx.key) (book : tx'.book = tx.book) :
    Holds (l.replace name tx') name tx' where
  opened := held?_replace_self holds.opened
  alone h mem same := by
    obtain ⟨old, held, rfl⟩ := List.mem_map.mp mem
    by_cases named : old.name = name
    · simp [swapped, named]
    · simp only [swapped, named, if_false] at same
      exact absurd (holds.alone old held (same.trans key)) named
  stored := by rw [books_replace, key, book, holds.stored]

/-- Other transactions may end or begin, on other wallets, as long as the committed book of the
wallet stays. -/
theorem of_mem {next : Ledger} (holds : Holds l name tx) (opened : next.held? name = l.held? name)
    (kept : ∀ h ∈ next.held, h ∈ l.held ∨ h.tx.key ≠ tx.key)
    (book : next.books tx.key = l.books tx.key) : Holds next name tx where
  opened := opened.trans holds.opened
  alone h mem same := (kept h mem).elim (fun old => holds.alone h old same) (absurd same)
  stored := book.trans holds.stored

theorem release (holds : Holds l name tx) {other : String} (apart : other ≠ name) :
    Holds (l.release other) name tx :=
  holds.of_mem (held?_release_of_ne apart) (fun _ mem => .inl (List.mem_of_mem_filter mem)) rfl

/-- The service leaves open transactions alone, and writes to wallets that are free. -/
theorem effect {next : Ledger} (holds : Holds l name tx) (effect : Effect l stamp next) :
    Holds next name tx := by
  cases effect with
  | same ledger => rwa [ledger]
  | point ledger =>
    rw [ledger]
    exact ⟨holds.opened, holds.alone, holds.stored⟩
  | created missing ledger =>
    rw [ledger]
    refine holds.of_mem rfl (fun _ mem => .inl mem) (books_withBook_of_ne fun same => ?_)
    cases (same ▸ missing).symm.trans holds.stored
  | written writes _ ledger =>
    rw [ledger]
    exact holds.of_mem rfl (fun _ mem => .inl mem)
      (books_withBook_of_ne (ne_of_free writes.free (mem_of_held? holds.opened)))

/-- Whatever is not asked of a transaction and does not end it leaves it as it is. -/
theorem elsewhere (holds : Holds l name tx) (stamp : Stamp) (unasked : op.work? name = none)
    (stays : op.ends name = false) : Holds (step stamp l op).ledger name tx := by
  cases op with
  | begin other wallet =>
    have apart : other ≠ name := by simpa [Op.ends] using stays
    rw [step_begin]
    cases stored : l.books wallet with
    | none => exact holds.release apart
    | some book =>
      by_cases held : (l.release other).isHeld wallet
      · simp only [held, if_true]
        exact holds.release apart
      · -- the wallet was free, so that it is not the one of the transaction
        have place : wallet ≠ tx.key := by
          rintro rfl
          exact held (holds.release apart).isHeld
        simp only [held]
        refine (holds.release apart).of_mem (held?_hold_of_ne apart) (fun h mem => ?_) rfl
        rcases List.mem_append.mp mem with old | new
        · exact .inl (List.mem_of_mem_filter old)
        · exact .inr (by rw [List.mem_singleton.mp new]; exact place)
  | inside other work =>
    -- another transaction is on another wallet
    have apart : other ≠ name := by simpa [Op.work?] using unasked
    cases opened : l.held? other with
    | none =>
      rw [step_inside, opened]
      exact holds
    | some theirs =>
      have place : theirs.key ≠ tx.key := fun same =>
        apart (holds.alone _ (mem_of_held? opened) same)
      cases performed : work.perform stamp theirs.key l.armed theirs.view with
      | error e =>
        rw [step_inside_of_error opened performed]
        exact ⟨holds.opened, holds.alone, holds.stored⟩
      | ok result =>
        obtain ⟨later, -, key, -, stepped⟩ := step_inside_of_ok opened performed
        rw [stepped]
        refine holds.of_mem (held?_replace_of_ne apart) (fun h mem => ?_) rfl
        obtain ⟨old, held, rfl⟩ := List.mem_map.mp mem
        by_cases named : old.name = other
        · exact .inr (by simpa [swapped, named, key] using place)
        · exact .inl (by simpa [swapped, named] using held)
  | commit other =>
    have apart : other ≠ name := by simpa [Op.ends] using stays
    rw [step_commit]
    cases opened : l.held? other with
    | none => exact holds
    | some theirs =>
      have place : tx.key ≠ theirs.key := fun same =>
        apart (holds.alone _ (mem_of_held? opened) same.symm)
      have ended := holds.release apart
      by_cases armed : l.armed .commit
      · simp only [armed, if_true]
        exact ⟨ended.opened, ended.alone, ended.stored⟩
      · simp only [armed]
        exact ended.of_mem rfl (fun _ mem => .inl mem) (books_withBook_of_ne place)
  | rollback other =>
    have apart : other ≠ name := by simpa [Op.ends] using stays
    rw [step_rollback]
    cases l.held? other with
    | none => exact holds
    | some _ => exact holds.release apart
  | _ => exact holds.effect (effect_step l stamp rfl)

/-- What is asked of a transaction it answers as a copy of its view would, and afterwards it sees
what the copy has become. -/
theorem asked (holds : Holds l name tx) (stamp : Stamp) (asks : op.work? name = some work) :
    let i : Instruction := ⟨stamp, l.armed, work⟩
    (step stamp l op).answer = (i.reply tx.key tx.view).mapError .failed ∧
      ∃ tx', Holds (step stamp l op).ledger name tx' ∧ tx'.key = tx.key ∧ tx'.book = tx.book ∧
        tx'.view = i.result tx.key tx.view := by
  have inside : op = .inside name work := by
    cases op with
    | inside n w =>
      by_cases named : n = name <;> simp_all [Op.work?]
    | _ => cases asks
  subst inside
  simp only [Instruction.reply, Instruction.result, Instruction.perform]
  -- an error leaves the transaction there, an answer puts another one on the same book in its place
  cases performed : work.perform stamp tx.key l.armed tx.view with
  | error e =>
    rw [step_inside_of_error holds.opened performed]
    exact ⟨rfl, tx, ⟨holds.opened, holds.alone, holds.stored⟩, rfl, rfl, rfl⟩
  | ok result =>
    obtain ⟨tx', view, key, book, stepped⟩ := step_inside_of_ok holds.opened performed
    rw [stepped]
    exact ⟨rfl, tx', holds.replace key book, key, book, view⟩

/-- Throughout a run that does not end it, a transaction answers as a copy of its view would, and
sees what the copy has become. -/
theorem run (holds : Holds l name tx) (stays : ∀ s ∈ script, s.2.ends name = false) :
    (dialogue name l script).map (·.2) =
        (tx.view.replies tx.key (instructions name l script)).map (Except.mapError .failed) ∧
      ∃ tx', Holds (after l script) name tx' ∧ tx'.key = tx.key ∧ tx'.book = tx.book ∧
        tx'.view = tx.view.worked tx.key (instructions name l script) := by
  -- the transaction of the first ledger becomes the one that the rest of the run starts with
  induction script generalizing l tx with
  | nil => exact ⟨rfl, tx, holds, rfl, rfl, rfl⟩
  | cons s script ih =>
    obtain ⟨stamp, op⟩ := s
    have first : op.ends name = false := stays (stamp, op) List.mem_cons_self
    have later : ∀ t ∈ script, t.2.ends name = false :=
      fun t mem => stays t (List.mem_cons_of_mem _ mem)
    cases asks : op.work? name with
    | none =>
      simp only [instructions, dialogue, asks, after_cons]
      exact ih (holds.elsewhere stamp asks first) later
    | some work =>
      obtain ⟨answer, tx', holds', key, book, view⟩ := holds.asked stamp asks
      obtain ⟨answers, last, held, key', book', view'⟩ := ih holds' later
      simp only [instructions, dialogue, asks, after_cons, List.map_cons, Book.replies, Book.worked]
      rw [key, view] at answers view'
      exact ⟨List.cons_eq_cons.mpr ⟨answer, answers⟩, last, held, key'.trans key,
        book'.trans book, view'⟩

/-- A read of the balance answers with what the transaction sees. -/
theorem reads (holds : Holds l name tx) (stamp : Stamp) :
    (step stamp l (.inside name .balance)).answer = .ok (.maybeBalance tx.view.balance) := by
  have read : TxOp.balance.perform stamp tx.key l.armed tx.view =
    .ok (.maybeBalance tx.view.balance, tx.view) := rfl
  obtain ⟨_, -, -, -, stepped⟩ := step_inside_of_ok holds.opened read
  rw [stepped]

/-- A commit puts what the transaction sees in the place of the book. -/
theorem commits (holds : Holds l name tx) (stamp : Stamp) (unarmed : l.armed .commit = false) :
    (step stamp l (.commit name)).answer = .ok .done ∧
      (step stamp l (.commit name)).ledger.books tx.key = some tx.view ∧
      ∀ k ≠ tx.key, (step stamp l (.commit name)).ledger.books k = l.books k := by
  simp only [step_commit, holds.opened, unarmed]
  exact ⟨rfl, books_withBook_self, fun k other => books_withBook_of_ne other⟩

theorem refused (holds : Holds l name tx) (stamp : Stamp) (armed : l.armed .commit = true) :
    (step stamp l (.commit name)).answer = .error (.failed (.persistence (.injected .commit))) ∧
      (step stamp l (.commit name)).ledger.books = l.books := by
  simp only [step_commit, holds.opened, armed, if_true]
  exact ⟨trivial, rfl⟩

theorem abandoned (holds : Holds l name tx) (stamp : Stamp) :
    (step stamp l (.rollback name)).answer = .ok .done ∧
      (step stamp l (.rollback name)).ledger.books = l.books := by
  simp only [step_rollback, holds.opened]
  exact ⟨trivial, rfl⟩

theorem freed (holds : Holds l name tx) (stamp : Stamp) :
    (step stamp l (.commit name)).ledger.isHeld tx.key = false ∧
      (step stamp l (.rollback name)).ledger.isHeld tx.key = false := by
  simp only [step_commit, step_rollback, holds.opened]
  refine ⟨?_, holds.released⟩
  by_cases armed : l.armed .commit
  · simp only [armed, if_true]
    exact holds.released
  · simp only [armed]
    exact holds.released

end Holds

/-! ### A transaction from its beginning to its end -/

/-- How a transaction on a wallet compares with a copy of the wallet's book that is its own. The
ledger is the one in which the transaction has just begun, and the script does not end it. -/
structure LikeCopy (l : Ledger) (name : String) (key : WalletKey) (book : Book)
    (script : List (Stamp × Op)) : Prop where
  /-- Whatever it is asked, it answers as the copy does. -/
  answers : (dialogue name l script).map (·.2) =
    (book.replies key (instructions name l script)).map (Except.mapError .failed)
  /-- It sees what the copy has become. -/
  view : ((after l script).held? name).map Transaction.view =
    some (book.worked key (instructions name l script))
  /-- The balance that it reads is what the movements have added up to, in the currency of the row
  that was there or of the first movement. -/
  accumulated (stamp : Stamp) : ∃ b,
    (step stamp (after l script) (.inside name .balance)).answer = .ok (.maybeBalance b) ∧
      (b.elim 0 fun b => b.amount.toInt) = book.projected +
        ((book.movements key (instructions name l script)).map (·.2.toInt)).sum ∧
      b.map (·.currency) = (book.balance.map (·.currency)).or
        ((book.movements key (instructions name l script)).head?.map (·.1))
  /-- Until it ends, the committed book is the one that it has begun with. -/
  hidden : (after l script).books key = some book
  /-- A commit puts the copy in the place of the book, and touches no other one. -/
  committed (stamp : Stamp) (unarmed : (after l script).armed .commit = false) :
    (step stamp (after l script) (.commit name)).answer = .ok .done ∧
      (step stamp (after l script) (.commit name)).ledger.books key =
        some (book.worked key (instructions name l script)) ∧
      ∀ k ≠ key, (step stamp (after l script) (.commit name)).ledger.books k =
        (after l script).books k
  /-- A commit that fails leaves every book as it is. -/
  refused (stamp : Stamp) (armed : (after l script).armed .commit = true) :
    (step stamp (after l script) (.commit name)).answer =
        .error (.failed (.persistence (.injected .commit))) ∧
      (step stamp (after l script) (.commit name)).ledger.books = (after l script).books
  /-- So does giving the transaction up. -/
  abandoned (stamp : Stamp) :
    (step stamp (after l script) (.rollback name)).answer = .ok .done ∧
      (step stamp (after l script) (.rollback name)).ledger.books = (after l script).books
  /-- However it ends, the wallet is free again. -/
  freed (stamp : Stamp) :
    (step stamp (after l script) (.commit name)).ledger.isHeld key = false ∧
      (step stamp (after l script) (.rollback name)).ledger.isHeld key = false

/-- A transaction that begins on a wallet which is free behaves like a private copy of its book,
whatever happens between its operations. -/
theorem private_copy {start : Stamp} (stored : l.books key = some book)
    (free : (l.release name).isHeld key = false)
    (stays : ∀ s ∈ script, s.2.ends name = false) :
    (step start l (.begin name key)).answer = .ok (.wallet book.wallet) ∧
      LikeCopy (step start l (.begin name key)).ledger name key book script := by
  have begun : step start l (.begin name key) =
      ⟨.ok (.wallet book.wallet), (l.release name).hold name (.opened key book), [], []⟩ := by
    simp only [step_begin, stored, free]
    rfl
  rw [begun]
  refine ⟨rfl, ?_⟩
  -- the copy starts as what the transaction sees at first, which is the committed book
  obtain ⟨answers, last, reached, place, origin, view⟩ := (holds_begin stored free).run stays
  rw [Transaction.view_opened] at answers view
  change last.key = key at place
  change last.book = book at origin
  subst place
  constructor
  case answers => exact answers
  case view => rw [reached.opened, Option.map_some, view]; rfl
  case hidden => exact origin ▸ reached.stored
  case committed => exact view ▸ reached.commits
  case refused => exact reached.refused
  case abandoned => exact reached.abandoned
  case freed => exact reached.freed
  case accumulated =>
    intro stamp
    exact ⟨_, view ▸ reached.reads stamp, Book.balance_worked _⟩

/-- An entry for examples. -/
def sampleDraft (amount : Minor) (idempotencyKey : String) : EntryDraft :=
  ⟨sampleId 8, .credit, amount, "USD", idempotencyKey, none, none, none⟩

/-- The first movement fails at an armed point and settles the currency at the second attempt. A key
that is used, a posting from outside and a movement that is too large change nothing. -/
def sampleTransaction : List (Stamp × Op) :=
  [(sampleStamp 2, .inside "raw" (.insertEntry (sampleDraft 5 "raw"))),
    (sampleStamp 3, .failNext .applyDelta),
    (sampleStamp 4, .inside "raw" (.applyDelta "EUR" 7)),
    (sampleStamp 5, .inside "raw" (.applyDelta "EUR" 7)),
    (sampleStamp 6, .inside "raw" (.insertEntry (sampleDraft 6 "raw"))),
    (sampleStamp 7, .credit sampleKey (samplePosting 1 "waits")),
    (sampleStamp 8, .inside "raw" (.applyDelta "EUR" Int64.maxValue)),
    (sampleStamp 9, .inside "raw" (.applyDelta "USD" 3))]

/-- On a new wallet, with a commit at the end. -/
theorem private_copy_of_sample :
    let l := after .empty [(sampleStamp 0, .createWallet (sampleWallet sampleKey))]
    let reached := after l ((sampleStamp 1, .begin "raw" sampleKey) :: sampleTransaction)
    ∃ book, l.books sampleKey = some book ∧ (l.release "raw").isHeld sampleKey = false ∧
      (∀ s ∈ sampleTransaction, s.2.ends "raw" = false) ∧
      LikeCopy (step (sampleStamp 1) l (.begin "raw" sampleKey)).ledger "raw" sampleKey book
        sampleTransaction ∧
      reached.armed .commit = false ∧
      ((step (sampleStamp 10) reached (.commit "raw")).ledger.books sampleKey).map
          (fun b => (b.entries.map (·.amount), b.balance.map fun b => (b.currency, b.amount))) =
        some ([5], some ("EUR", 10)) := by
  intro l reached
  have stays : ∀ s ∈ sampleTransaction, s.2.ends "raw" = false := by decide
  have stored : l.books sampleKey = some _ := rfl
  have free : (l.release "raw").isHeld sampleKey = false := by decide
  have unarmed : reached.armed .commit = false := by decide +kernel
  have book : ((step (sampleStamp 10) reached (.commit "raw")).ledger.books sampleKey).map
      (fun b => (b.entries.map (·.amount), b.balance.map fun b => (b.currency, b.amount))) =
    some ([5], some ("EUR", 10)) := by decide +kernel
  exact ⟨_, stored, free, stays, (private_copy stored free stays).2, unarmed, book⟩

end CallExchange.Ledger
