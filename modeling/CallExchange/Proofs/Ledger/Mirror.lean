import CallExchange.Proofs.Ledger.Renaming
import CallExchange.Proofs.Ledger.Service

/-!
# Some wallets of a ledger

An operation on a wallet looks at nothing of the ledger but the book of the wallet, the transaction
that is open on it, and the armed fail points. On a ledger that has these, whatever else it has or
lacks, and under other identifiers, it takes the same course, writes the same to the log and reports
the same actions.

## Main definitions

* `Ledger.excerpt` — what a ledger has of some wallets, with renamed identifiers
* `Ledger.part` — what it has of one wallet
* `Ledger.Mirrors` — an operation takes the same course on an excerpt of the ledger
* `Ledger.Twin` — a transaction on a wallet of the excerpt and the one with renamed identifiers

## Main results

* `Mirrors.bind` — operations that take the same course may be put together
* `mirrors_post` — a posting takes the same course
* `mirrors_action`, `step_excerpt` — every operation that names a wallet of the excerpt does
-/

namespace CallExchange.Ledger

/-- What the ledger has of some wallets, with renamed identifiers. -/
def excerpt (ρ : Uuid → Uuid) (own : WalletKey → Bool) (l : Ledger) : Ledger where
  books k := if own k then (l.books k).map (·.rename ρ) else none
  armed := l.armed
  held := (l.held.filter fun h => own h.tx.key).map (·.rename ρ)

/-- What the ledger has of one wallet, with renamed identifiers. -/
abbrev part (ρ : Uuid → Uuid) (key : WalletKey) (l : Ledger) : Ledger := l.excerpt ρ (· = key)

/-- What an operation on the wallets of an excerpt works on. -/
def Desk.excerpt (ρ : Uuid → Uuid) (own : WalletKey → Bool) (d : Desk) : Desk where
  ledger := d.ledger.excerpt ρ own
  log := d.log.map (·.rename ρ)
  reports := d.reports.map (·.rename ρ)

variable {ρ : Uuid → Uuid} {own : WalletKey → Bool} {key : WalletKey} {l : Ledger} {name : String}
  {tx : Transaction} {d : Desk}

theorem books_excerpt (mine : own key) :
    (l.excerpt ρ own).books key = (l.books key).map (·.rename ρ) := if_pos mine

theorem excerpt_empty : (empty.excerpt ρ own) = empty := by
  have books : (empty.excerpt ρ own).books = empty.books := by
    funext k
    simp [excerpt, empty]
  exact congrArg (fun books => Ledger.mk books empty.armed []) books

theorem excerpt_withBook (mine : own key) {book : Book} :
    (l.withBook key book).excerpt ρ own = (l.excerpt ρ own).withBook key (book.rename ρ) := by
  have books : ((l.withBook key book).excerpt ρ own).books =
      ((l.excerpt ρ own).withBook key (book.rename ρ)).books := by
    funext k
    by_cases same : k = key <;> simp [excerpt, withBook, same, mine]
  exact congrArg (fun books => Ledger.mk books l.armed (l.excerpt ρ own).held) books

theorem isHeld_excerpt (mine : own key) : (l.excerpt ρ own).isHeld key = l.isHeld key := by
  -- the transactions on the wallet are among those that are left, on the same wallet
  have same (h : HeldTransaction) :
      (own h.tx.key && decide ((h.rename ρ).tx.key = key)) = decide (h.tx.key = key) := by
    rw [HeldTransaction.rename, Transaction.key_rename]
    by_cases place : h.tx.key = key <;> simp [place, mine]
  simp only [isHeld, excerpt, List.any_map, List.any_filter]
  exact congrArg (List.any l.held) (funext same)

theorem excerpt_release :
    (l.release name).excerpt ρ own = (l.excerpt ρ own).release name := by
  have held : ((l.release name).excerpt ρ own).held = ((l.excerpt ρ own).release name).held := by
    simp only [excerpt, release, List.filter_map, List.filter_filter]
    refine congrArg _ (List.filter_congr fun h _ => ?_)
    simp [HeldTransaction.rename, Bool.and_comm]
  exact congrArg (Ledger.mk (l.excerpt ρ own).books l.armed) held

theorem excerpt_hold (mine : own tx.key) :
    (l.hold name tx).excerpt ρ own = (l.excerpt ρ own).hold name (tx.rename ρ) := by
  have held : ((l.hold name tx).excerpt ρ own).held =
      ((l.excerpt ρ own).hold name (tx.rename ρ)).held := by
    have others : ((l.release name).excerpt ρ own).held =
        ((l.excerpt ρ own).release name).held := congrArg Ledger.held excerpt_release
    simp only [hold, ← others]
    simp [excerpt, List.filter_append, mine, HeldTransaction.rename]
  exact congrArg (Ledger.mk (l.excerpt ρ own).books l.armed) held

/-! ### The same course -/

section

variable {α β γ δ : Type}

/-- Two results of an operation on two desks, the second desk being an excerpt of the first. -/
inductive Ends (ρ : Uuid → Uuid) (own : WalletKey → Bool) (R : α → β → Prop) :
    EStateM.Result (Halt WalletError) Desk α → EStateM.Result (Halt WalletError) Desk β → Prop
  | ok {a : α} {b : β} {d : Desk} (values : R a b) : Ends ρ own R (.ok a d) (.ok b (d.excerpt ρ own))
  | error {halt : Halt WalletError} {d : Desk} :
      Ends ρ own R (.error halt d) (.error halt (d.excerpt ρ own))

/-- On an excerpt of the desk the second operation takes the same course as the first one on the
whole. -/
def Mirrors (ρ : Uuid → Uuid) (own : WalletKey → Bool) (R : α → β → Prop) (m : LedgerM α)
    (m' : LedgerM β) : Prop :=
  ∀ d : Desk, Ends ρ own R (m.run d) (m'.run (d.excerpt ρ own))

/-- Nothing is said about the values. -/
abbrev Whatever {α β : Type} : α → β → Prop := fun _ _ => True

variable {R : α → β → Prop} {S : γ → δ → Prop}

theorem Mirrors.bind {m : LedgerM α} {m' : LedgerM β} {f : α → LedgerM γ} {f' : β → LedgerM δ}
    (first : Mirrors ρ own R m m') (rest : ∀ a b, R a b → Mirrors ρ own S (f a) (f' b)) :
    Mirrors ρ own S (m >>= f) (m' >>= f') := by
  intro d
  have ends := first d
  rw [EStateM.run_bind, EStateM.run_bind]
  generalize m.run d = result at ends ⊢
  generalize m'.run (d.excerpt ρ own) = result' at ends ⊢
  cases ends with
  | ok values => exact rest _ _ values _
  | error => exact .error

theorem mirrors_pure {a : α} {b : β} (values : R a b) :
    Mirrors ρ own R (pure a : LedgerM α) (pure b) := fun _ => .ok values

theorem mirrors_fail {e : WalletError} :
    Mirrors ρ own R (fail e : LedgerM α) (fail e) := fun _ => .error

theorem mirrors_failIf {c c' : Prop} [Decidable c] [Decidable c'] {e : WalletError}
    (same : c ↔ c') : Mirrors ρ own Whatever (failIf c e) (failIf c' e) := by
  unfold failIf
  by_cases holds : c
  · rw [if_pos holds, if_pos (same.mp holds)]
    exact mirrors_fail
  · rw [if_neg holds, if_neg (mt same.mpr holds)]
    exact mirrors_pure trivial

/-- A change of the desk is one of the excerpt. -/
theorem mirrors_modify {f f' : Desk → Desk}
    (same : ∀ d, f' (d.excerpt ρ own) = (f d).excerpt ρ own) :
    Mirrors ρ own Whatever (modify f) (modify f') := by
  intro d
  have changed : (modify f' : LedgerM Unit).run (d.excerpt ρ own) = .ok () ((f d).excerpt ρ own) :=
    congrArg (EStateM.Result.ok ()) (same d)
  rw [changed]
  exact .ok trivial

theorem mirrors_note {e : LogEvent} : Mirrors ρ own Whatever (note e) (note (e.rename ρ)) :=
  mirrors_modify fun d => by simp [Desk.excerpt]

theorem mirrors_noteIf {c c' : Prop} [Decidable c] [Decidable c'] {e : LogEvent} (same : c ↔ c') :
    Mirrors ρ own Whatever (noteIf c e) (noteIf c' (e.rename ρ)) := by
  unfold noteIf
  by_cases holds : c
  · rw [if_pos holds, if_pos (same.mp holds)]
    exact mirrors_note
  · rw [if_neg holds, if_neg (mt same.mpr holds)]
    exact mirrors_pure trivial

theorem mirrors_report {a : AdminAction} :
    Mirrors ρ own Whatever (report a) (report (a.rename ρ)) :=
  mirrors_modify fun d => by simp [Desk.excerpt]

theorem mirrors_refuse {cause : Option Refusal} :
    Mirrors ρ own Whatever (refuse cause) (refuse cause) := by
  cases cause with
  | none => exact mirrors_pure trivial
  | some cause => exact mirrors_fail

theorem mirrors_modifyLedger {f f' : Ledger → Ledger}
    (same : ∀ l, (f l).excerpt ρ own = f' (l.excerpt ρ own)) :
    Mirrors ρ own Whatever (modifyLedger f) (modifyLedger f') :=
  mirrors_modify fun d => by simp [Desk.excerpt, same]

end

/-! ### The steps of a transaction -/

section

variable {tx' : Transaction} {stamp : Stamp} {p : Posting}

theorem mirrors_trip {point : FailPoint} : Mirrors ρ own Whatever (trip point) (trip point) := by
  intro d
  have armed : (d.excerpt ρ own).ledger.armed point = d.ledger.armed point := rfl
  rw [run_trip, run_trip, armed]
  by_cases on : d.ledger.armed point
  · rw [if_pos on, if_pos on]
    exact .error (d := { d with ledger := d.ledger.withPoint point false })
  · rw [if_neg on, if_neg on]
    exact .ok trivial

/-- The book of a wallet is read as it is, under other identifiers. -/
theorem mirrors_book? (mine : own key) :
    Mirrors ρ own (fun book book' => book' = book.map (·.rename ρ)) (book? key) (book? key) := by
  intro d
  have books : (d.excerpt ρ own).ledger.books key = (d.ledger.books key).map (·.rename ρ) :=
    books_excerpt mine
  have held : (d.excerpt ρ own).ledger.isHeld key = d.ledger.isHeld key := isHeld_excerpt mine
  rw [run_book?, run_book?, books, held]
  cases d.ledger.books key with
  | none => exact .ok rfl
  | some book =>
    by_cases held : d.ledger.isHeld key
    · simp only [Option.map_some, held, if_true]
      exact .error
    · simp only [Option.map_some, held]
      exact .ok rfl

/-- A transaction on a wallet of the excerpt and the same one under other identifiers. -/
structure Twin (ρ : Uuid → Uuid) (own : WalletKey → Bool) (tx tx' : Transaction) : Prop where
  place : own tx.key
  renamed : tx' = tx.rename ρ

theorem mirrors_begin (mine : own key) :
    Mirrors ρ own (Twin ρ own) (begin key) (begin key) := by
  refine (mirrors_book? mine).bind fun book book' same => ?_
  subst same
  cases book with
  | none => exact mirrors_fail
  | some book => exact mirrors_pure ⟨mine, rfl⟩

theorem mirrors_insertEntry (twin : Twin ρ own tx tx') {e : Entry} :
    Mirrors ρ own (Twin ρ own) (tx.insertEntry e) (tx'.insertEntry (e.rename ρ)) := by
  obtain ⟨place, rfl⟩ := twin
  refine mirrors_trip.bind fun _ _ _ => ?_
  -- the key of the entry is used on both sides or on none
  have used : (tx.entry? e.idempotencyKey).isSome ↔
      (Transaction.entry? (tx.rename ρ) (e.rename ρ).idempotencyKey).isSome := by
    rw [Entry.idempotencyKey_rename, Transaction.entry?_rename, Option.isSome_map]
  refine (mirrors_failIf used).bind fun _ _ _ => mirrors_pure ⟨place, ?_⟩
  simp [Transaction.rename]

theorem mirrors_applyDelta (twin : Twin ρ own tx tx') {currency : String} {delta : Minor}
    {now : Instant} :
    Mirrors ρ own (fun r r' => r'.1 = r.1 ∧ Twin ρ own r.2 r'.2)
      (tx.applyDelta currency delta now) (tx'.applyDelta currency delta now) := by
  obtain ⟨place, rfl⟩ := twin
  refine mirrors_trip.bind fun _ _ _ => ?_
  rw [Transaction.wallet_rename, Transaction.balance_rename]
  cases Balance.moved? tx.book.wallet tx.balance currency delta now with
  | none => exact mirrors_fail
  | some b => exact mirrors_pure ⟨rfl, place, rfl⟩

theorem mirrors_insertAction (twin : Twin ρ own tx tx') {a : AdminAction} :
    Mirrors ρ own (Twin ρ own) (tx.insertAction a) (tx'.insertAction (a.rename ρ)) := by
  obtain ⟨place, rfl⟩ := twin
  refine mirrors_trip.bind fun _ _ _ => mirrors_pure ⟨place, ?_⟩
  simp [Transaction.rename]

theorem mirrors_commit (twin : Twin ρ own tx tx') :
    Mirrors ρ own Whatever tx.commit tx'.commit := by
  obtain ⟨mine, rfl⟩ := twin
  have published : Mirrors ρ own Whatever (modifyLedger (·.withBook tx.key tx.view))
      (modifyLedger (·.withBook (tx.rename ρ).key (tx.rename ρ).view)) := by
    refine mirrors_modifyLedger fun l => ?_
    rw [excerpt_withBook mine, Transaction.view_rename, Transaction.key_rename]
  exact mirrors_trip.bind fun _ _ _ => published

/-! ### Postings -/

theorem mirrors_insertAction? (twin : Twin ρ own tx tx') {a : Option AdminAction} :
    Mirrors ρ own (Twin ρ own) (insertAction? tx a) (insertAction? tx' (a.map (·.rename ρ))) := by
  cases a with
  | none => exact mirrors_pure twin
  | some a => exact mirrors_insertAction twin

theorem mirrors_checkFunds (twin : Twin ρ own tx tx') :
    Mirrors ρ own Whatever (checkFunds p tx) (checkFunds p tx') := by
  obtain ⟨place, rfl⟩ := twin
  unfold checkFunds
  rw [Transaction.balance_rename]
  cases shortfall? p tx.balance with
  | none => exact mirrors_pure trivial
  | some e => exact mirrors_fail

/-- Receipts with the same rows under other identifiers. -/
abbrev Alike (ρ : Uuid → Uuid) : Receipt → Receipt → Prop := fun r r' => r' = r.rename ρ

theorem mirrors_replay (injective : Function.Injective ρ) (twin : Twin ρ own tx tx')
    {stored : Entry} :
    Mirrors ρ own (Alike ρ) (replay key p tx stored) (replay key p tx' (stored.rename ρ)) := by
  obtain ⟨place, rfl⟩ := twin
  let reused : LogEvent := .keyReused key p.idempotencyKey stored.amount p.signed
  refine (mirrors_noteIf (e := reused) Iff.rfl).bind fun _ _ _ => ?_
  rw [Transaction.balance_rename]
  cases tx.balance with
  | none => exact mirrors_fail
  | some b =>
    refine (mirrors_note (e := .replayed key stored.id)).bind fun _ _ _ => mirrors_pure ?_
    rw [Alike, Posting.storedAction?_rename injective]
    rfl

theorem mirrors_write (twin : Twin ρ own tx tx') :
    Mirrors ρ own (Alike ρ) (write stamp key p tx) (write (stamp.rename ρ) key p tx') := by
  -- the transaction changes from stage to stage, and its twin with it
  refine (mirrors_checkFunds twin).bind fun _ _ _ => ?_
  refine (mirrors_insertEntry twin).bind fun tx₁ tx₁' twin₁ => ?_
  refine (mirrors_applyDelta twin₁).bind fun moved moved' same => ?_
  obtain ⟨b, tx₂⟩ := moved
  obtain ⟨b', tx₂'⟩ := moved'
  obtain ⟨rfl, twin₂⟩ := same
  rw [Posting.action?_rename]
  refine (mirrors_insertAction? twin₂).bind fun tx₃ tx₃' twin₃ => ?_
  let posted : LogEvent :=
    .posted key stamp.entryId (p.entry stamp key).entryType (p.entry stamp key).amount b'.amount
  exact (mirrors_commit twin₃).bind fun _ _ _ =>
    (mirrors_note (e := posted)).bind fun _ _ _ => mirrors_pure rfl

/-- A posting takes the same course from its checks to its commit. -/
theorem mirrors_post (injective : Function.Injective ρ) (mine : own key) :
    Mirrors ρ own (Alike ρ) (post stamp key p) (post (stamp.rename ρ) key p) := by
  refine mirrors_refuse.bind fun _ _ _ => mirrors_refuse.bind fun _ _ _ => ?_
  -- from here on there is a transaction on either side, on the same wallet and with the same keys
  refine (mirrors_begin mine).bind fun tx tx' twin => ?_
  have wallet : tx'.book.wallet = tx.book.wallet := by rw [twin.renamed, Transaction.wallet_rename]
  rw [wallet]
  refine (mirrors_failIf Iff.rfl).bind fun _ _ _ => ?_
  have found : tx'.entry? p.idempotencyKey = (tx.entry? p.idempotencyKey).map (·.rename ρ) := by
    rw [twin.renamed, Transaction.entry?_rename]
  rw [found]
  cases tx.entry? p.idempotencyKey with
  | none => exact mirrors_write twin
  | some stored => exact mirrors_replay injective twin

theorem mirrors_reportFresh {r : Receipt} :
    Mirrors ρ own Whatever (reportFresh r) (reportFresh (r.rename ρ)) := by
  obtain ⟨entry, balance, action, replayed⟩ := r
  cases replayed <;> cases action
  · exact mirrors_pure trivial
  · exact mirrors_report
  · exact mirrors_pure trivial
  · exact mirrors_pure trivial

theorem mirrors_adminCredit (injective : Function.Injective ρ) (mine : own key)
    {actor : AdminActor} {r : AdminCreditRequest} :
    Mirrors ρ own (Alike ρ) (adminCredit stamp key actor r)
      (adminCredit (stamp.rename ρ) key actor r) := by
  refine (mirrors_failIf Iff.rfl).bind fun _ _ _ => (mirrors_failIf Iff.rfl).bind fun _ _ _ => ?_
  refine (mirrors_post injective mine).bind fun receipt receipt' same => ?_
  subst same
  exact mirrors_reportFresh.bind fun _ _ _ => mirrors_pure rfl

end

/-! ### Operations that name the wallet -/

section

variable {stamp : Stamp} {op : Op}

theorem mirrors_storedBalance (mine : own key) :
    Mirrors ρ own Eq (storedBalance key) (storedBalance key) := by
  refine (mirrors_book? mine).bind fun book book' same => mirrors_pure ?_
  subst same
  cases book <;> rfl

theorem mirrors_adminActions (mine : own key) :
    Mirrors ρ own (fun as as' => as' = as.map (·.rename ρ)) (adminActions key)
      (adminActions key) := by
  refine (mirrors_book? mine).bind fun book book' same => mirrors_pure ?_
  subst same
  cases book <;> rfl

theorem mirrors_balance (mine : own key) : Mirrors ρ own Eq (balance key) (balance key) := by
  refine mirrors_refuse.bind fun _ _ _ => (mirrors_storedBalance mine).bind fun b b' same => ?_
  subst same
  cases b with
  | none => exact mirrors_fail
  | some b => exact mirrors_pure rfl

theorem mirrors_entries (mine : own key) :
    Mirrors ρ own (fun es es' => es' = es.map (·.rename ρ)) (entries key) (entries key) := by
  refine mirrors_refuse.bind fun _ _ _ => (mirrors_begin mine).bind fun tx tx' twin =>
    mirrors_pure ?_
  rw [twin.renamed, Transaction.entries_rename]

theorem mirrors_reconcile (mine : own key) :
    Mirrors ρ own Eq (reconcile key) (reconcile key) := by
  refine mirrors_refuse.bind fun _ _ _ => (mirrors_begin mine).bind fun tx tx' twin => ?_
  obtain ⟨place, rfl⟩ := twin
  -- sums and numbers of entries do not depend on identifiers
  have amounts : ((tx.rename ρ).entries.map (·.amount)) = tx.entries.map (·.amount) := by
    rw [Transaction.entries_rename, List.map_map]
    rfl
  have count : (tx.rename ρ).entries.length = tx.entries.length := by
    rw [Transaction.entries_rename, List.length_map]
  rw [amounts, count, Transaction.balance_rename]
  cases Minor.sum? (tx.entries.map (·.amount)) with
  | none => exact mirrors_fail
  | some sum =>
    let drifted : LogEvent := .drifted key sum (tx.balance.map (·.amount))
    exact (mirrors_noteIf (e := drifted) Iff.rfl).bind fun _ _ _ => mirrors_pure rfl

theorem mirrors_createWallet {w : Wallet} (mine : own w.key) :
    Mirrors ρ own Whatever (createWallet w) (createWallet w) := by
  -- whether there is such a wallet does not depend on identifiers, and a new one has no rows
  intro d
  have books : (d.excerpt ρ own).ledger.books w.key =
      (d.ledger.books w.key).map (·.rename ρ) := books_excerpt mine
  rw [run_createWallet, run_createWallet, books]
  cases d.ledger.books w.key with
  | some book => exact .error
  | none =>
    have registered : (d.excerpt ρ own).ledger.withBook w.key (.new w) =
        (d.ledger.withBook w.key (.new w)).excerpt ρ own := by
      rw [excerpt_withBook mine, Book.rename_new]
      rfl
    simp only [Option.map_none, registered]
    exact .ok trivial (d := { d with ledger := d.ledger.withBook w.key (.new w) })

theorem mirrors_beginHeld (mine : own key) :
    Mirrors ρ own (fun a a' => a' = a.rename ρ) (beginHeld name key) (beginHeld name key) := by
  refine (mirrors_modifyLedger fun l => excerpt_release).bind fun _ _ _ => ?_
  refine (mirrors_begin mine).bind fun tx tx' twin => ?_
  obtain ⟨place, rfl⟩ := twin
  exact (mirrors_modifyLedger fun l => excerpt_hold place).bind fun _ _ _ => mirrors_pure rfl

/-- Every operation that names a wallet takes the same course on what there is of the wallet. -/
theorem mirrors_action (stamp : Stamp) (injective : Function.Injective ρ)
    (named : op.named? = some key) (mine : own key) :
    Mirrors ρ own (fun a a' => a' = a.rename ρ) (op.action stamp)
      ((op.rename ρ).action (stamp.rename ρ)) := by
  cases op with
  | createWallet =>
    cases named
    exact (mirrors_createWallet mine).bind fun _ _ _ => mirrors_pure rfl
  | credit | debit =>
    cases named
    exact (mirrors_post injective mine).bind fun _ _ same => mirrors_pure (by rw [same]; rfl)
  | adminCredit =>
    cases named
    exact (mirrors_adminCredit injective mine).bind fun _ _ same => mirrors_pure (by rw [same]; rfl)
  | balance =>
    cases named
    exact (mirrors_balance mine).bind fun _ _ same => mirrors_pure (by rw [same]; rfl)
  | storedBalance =>
    cases named
    exact (mirrors_storedBalance mine).bind fun _ _ same => mirrors_pure (by rw [same]; rfl)
  | entries =>
    cases named
    exact (mirrors_entries mine).bind fun _ _ same => mirrors_pure (by rw [same]; rfl)
  | reconcile =>
    cases named
    exact (mirrors_reconcile mine).bind fun _ _ same => mirrors_pure (by rw [same]; rfl)
  | adminActions =>
    cases named
    exact (mirrors_adminActions mine).bind fun _ _ same => mirrors_pure (by rw [same]; rfl)
  | begin =>
    cases named
    exact mirrors_beginHeld mine
  | failNext | inside | commit | rollback => cases named

/-- The outcome of an operation as it is on an excerpt of the ledger. -/
def Outcome.excerpt (ρ : Uuid → Uuid) (own : WalletKey → Bool) (o : Outcome) : Outcome where
  answer := o.answer.map (Answer.rename ρ)
  ledger := o.ledger.excerpt ρ own
  log := o.log.map (·.rename ρ)
  reports := o.reports.map (·.rename ρ)

/-- An operation that names a wallet has the same outcome on what there is of the wallet. -/
theorem step_excerpt (injective : Function.Injective ρ) (named : op.named? = some key)
    (mine : own key) :
    step (stamp.rename ρ) (l.excerpt ρ own) (op.rename ρ) = (step stamp l op).excerpt ρ own := by
  have ends := mirrors_action stamp injective named mine (.of l)
  have start : (Desk.of l).excerpt ρ own = .of (l.excerpt ρ own) := rfl
  simp only [step, LedgerM.outcome]
  rw [start] at ends
  generalize (op.action stamp).run (.of l) = result at ends ⊢
  generalize ((op.rename ρ).action (stamp.rename ρ)).run (.of (l.excerpt ρ own)) = result'
    at ends ⊢
  cases ends with
  | ok values =>
    rw [values]
    rfl
  | error => rfl

/-- A step inside a transaction on a wallet of the excerpt takes the same course. -/
theorem mirrors_run (stamp : Stamp) (work : TxOp) {tx' : Transaction}
    (injective : Function.Injective ρ) (twin : Twin ρ own tx tx') :
    Mirrors ρ own (fun r r' => r'.1 = r.1.rename ρ ∧ Twin ρ own r.2 r'.2) (work.run stamp tx)
      ((work.rename ρ).run (stamp.rename ρ) tx') := by
  have key_eq : tx'.key = tx.key := by rw [twin.renamed, Transaction.key_rename]
  cases work with
  | insertEntry draft =>
    simp only [TxOp.run, TxOp.rename, key_eq]
    exact (mirrors_insertEntry twin).bind fun _ _ twin => mirrors_pure ⟨rfl, twin⟩
  | applyDelta currency delta =>
    refine (mirrors_applyDelta twin).bind fun r r' same => ?_
    obtain ⟨b, tx₁⟩ := r
    obtain ⟨b', tx₁'⟩ := r'
    obtain ⟨rfl, twin⟩ := same
    exact mirrors_pure ⟨rfl, twin⟩
  | insertAction draft =>
    simp only [TxOp.run, TxOp.rename, key_eq]
    exact (mirrors_insertAction twin).bind fun _ _ twin => mirrors_pure ⟨rfl, twin⟩
  | wallet =>
    refine mirrors_pure ⟨?_, twin⟩
    simp only [Answer.rename, twin.renamed, Transaction.rename, Book.rename]
  | entries =>
    refine mirrors_pure ⟨?_, twin⟩
    simp only [Answer.rename, twin.renamed, Transaction.entries_rename]
  | findEntry idempotencyKey =>
    refine mirrors_pure ⟨?_, twin⟩
    simp only [Answer.rename, twin.renamed, Transaction.entry?_rename]
  | findAction entryId =>
    refine mirrors_pure ⟨?_, twin⟩
    simp only [Answer.rename, twin.renamed, Transaction.action?_rename injective]
  | balance =>
    refine mirrors_pure ⟨?_, twin⟩
    simp only [Answer.rename, twin.renamed, Transaction.balance_rename]

end

end CallExchange.Ledger
