import CallExchange.Proofs.Ledger.Service
import Mathlib.Data.List.Nodup

/-!
# Transactions that stay open

A transaction under a name stays open between operations and holds its wallet meanwhile. It works on
the book as it was at its beginning, which remains the committed one because nobody else can write
to that book before it ends. That is why a commit may put the transaction's view in the place of the
book.

## Main definitions

* `Ledger.replace` — the ledger after a step inside an open transaction
* `Ledger.Staged` — what such a step makes of the transaction
* `Ledger.Move` — what an operation, of the service or on an open transaction, does to the ledger
* `Ledger.Exclusive` — each open transaction has a wallet of its own, and its committed book

## Main results

* `move_step` — every operation makes one of the moves
* `exclusive_after` — open transactions are exclusive throughout a run
-/

namespace CallExchange.Ledger

variable {l : Ledger} {d : Desk} {stamp : Stamp} {op : Op} {key : WalletKey} {name other : String}
  {book : Book} {tx tx' : Transaction}

/-- An open transaction, or another one in its place if it has the name. -/
def swapped (name : String) (tx : Transaction) (h : HeldTransaction) : HeldTransaction :=
  if h.name = name then { h with tx := tx } else h

/-- The ledger with another transaction under a name that is in use. -/
def replace (l : Ledger) (name : String) (tx : Transaction) : Ledger :=
  { l with held := l.held.map (swapped name tx) }

@[simp] theorem books_replace : (l.replace name tx).books = l.books := rfl

@[simp] theorem books_release : (l.release name).books = l.books := rfl

@[simp] theorem books_hold : (l.hold name tx).books = l.books := rfl

theorem mem_of_held? (opened : l.held? name = some tx) : ⟨name, tx⟩ ∈ l.held := by
  obtain ⟨h, found, rfl⟩ := Option.map_eq_some_iff.mp opened
  have named : h.name = name := by simpa using List.find?_some found
  rw [← named]
  exact List.mem_of_find?_eq_some found

/-! ### The transaction of a name -/

/-- Giving up the transaction of another name does not touch the one of a name. -/
theorem held?_release_of_ne (apart : other ≠ name) :
    (l.release other).held? name = l.held? name := by
  have same : (fun h : HeldTransaction => decide (h.name ≠ other ∧ h.name = name)) =
      fun h => decide (h.name = name) := by
    funext h
    by_cases named : h.name = name
    · simp [named, Ne.symm apart]
    · simp [named]
  simp only [held?, release, List.find?_filter, decide_eq_true_eq, same]

@[simp] theorem held?_release_self : (l.release name).held? name = none := by
  simp [held?, release]

/-- The last transaction that is held under a name is the one of that name. -/
@[simp] theorem held?_hold_self : (l.hold name tx).held? name = some tx := by
  have unnamed : (l.release name).held.find? (fun h => h.name = name) = none := by
    simp [release]
  simp [held?, hold, List.find?_append, unnamed]

theorem held?_hold_of_ne (apart : other ≠ name) :
    (l.hold other tx).held? name = l.held? name := by
  have others : (l.hold other tx).held? name = (l.release other).held? name := by
    simp [held?, hold, List.find?_append, apart]
  exact others.trans (held?_release_of_ne apart)

theorem held?_replace_self {tx' : Transaction} (opened : l.held? name = some tx') :
    (l.replace name tx).held? name = some tx := by
  obtain ⟨h, found, -⟩ := Option.map_eq_some_iff.mp opened
  have named : h.name = name := by simpa using List.find?_some found
  have kept : ((fun h : HeldTransaction => decide (h.name = name)) ∘ swapped name tx) =
      fun h => decide (h.name = name) := by
    funext g
    by_cases same : g.name = name <;> simp [swapped, same]
  simp only [held?, replace, List.find?_map, kept, found, Option.map_some, swapped, named, if_true]

theorem held?_replace_of_ne (apart : other ≠ name) :
    (l.replace other tx).held? name = l.held? name := by
  have kept : ((fun h : HeldTransaction => decide (h.name = name)) ∘ swapped other tx) =
      fun h => decide (h.name = name) := by
    funext g
    by_cases same : g.name = other <;> simp [swapped, same, apart]
  simp only [held?, replace, List.find?_map, kept, Option.map_map]
  cases found : l.held.find? fun h => decide (h.name = name) with
  | none => rfl
  | some h =>
    have named : h.name = name := by simpa using List.find?_some found
    simp [swapped, named, Ne.symm apart]

/-! ### What the operations do -/

@[simp] theorem run_modifyLedger {f : Ledger → Ledger} :
    (modifyLedger f).run d = .ok () { d with ledger := f d.ledger } := rfl

@[simp] theorem run_current? : (current? name).run d = .ok (d.ledger.held? name) d := rfl

theorem step_begin :
    step stamp l (.begin name key) =
      match l.books key with
      | none => ⟨.error (.failed (.notFound (.wallet key.walletId))), l.release name, [], []⟩
      | some book =>
        if (l.release name).isHeld key then ⟨.error .waiting, l.release name, [], []⟩
        else
          ⟨.ok (.wallet book.wallet), (l.release name).hold name (.opened key book), [], []⟩ := by
  simp only [step, LedgerM.outcome, Op.action, beginHeld, EStateM.run_bind, run_modifyLedger,
    run_begin, Desk.of, books_release]
  cases l.books key with
  | none => rfl
  | some book => by_cases held : (l.release name).isHeld key <;> simp [held, Transaction.opened]

theorem step_commit :
    step stamp l (.commit name) =
      match l.held? name with
      | none => ⟨.ok .noTransaction, l, [], []⟩
      | some tx =>
        if l.armed .commit then
          ⟨.error (.failed (.persistence (.injected .commit))),
            (l.release name).withPoint .commit false, [], []⟩
        else ⟨.ok .done, (l.release name).withBook tx.key tx.view, [], []⟩ := by
  simp only [step, LedgerM.outcome, Op.action, commitHeld, EStateM.run_bind, run_current?, Desk.of]
  cases l.held? name with
  | none => rfl
  | some tx =>
    have armed : (l.release name).armed = l.armed := rfl
    simp only [EStateM.run_bind, run_modifyLedger, run_commit, armed]
    by_cases point : l.armed .commit
    · simp only [point, if_true]
    · simp only [point]
      rfl

theorem step_rollback :
    step stamp l (.rollback name) =
      match l.held? name with
      | none => ⟨.ok .noTransaction, l, [], []⟩
      | some _ => ⟨.ok .done, l.release name, [], []⟩ := by
  simp only [step, LedgerM.outcome, Op.action, rollbackHeld, EStateM.run_bind, run_current?,
    Desk.of]
  cases l.held? name <;> rfl

theorem step_inside {work : TxOp} :
    step stamp l (.inside name work) =
      match l.held? name with
      | none => ⟨.ok .noTransaction, l, [], []⟩
      | some tx =>
        match (work.run stamp tx).run (.of l) with
        | .ok (answer, tx) d => ⟨.ok answer, d.ledger.replace name tx, d.log, d.reports⟩
        | .error halt d => ⟨.error halt, d.ledger, d.log, d.reports⟩ := by
  simp only [step, LedgerM.outcome, Op.action, insideHeld, EStateM.run_bind, run_current?, Desk.of]
  cases l.held? name with
  | none => rfl
  | some tx =>
    simp only [EStateM.run_bind]
    cases (work.run stamp tx).run ⟨l, [], []⟩ <;> rfl

/-- What a step inside a transaction makes of it: the same transaction, one with another entry
whose key was free, with a moved balance, or with another action. -/
inductive Staged (tx : Transaction) : Transaction → Prop
  | same : Staged tx tx
  | entry {e : Entry} (free : tx.entry? e.idempotencyKey = none) :
      Staged tx { tx with newEntries := tx.newEntries ++ [e] }
  | balance {currency : String} {delta : Minor} {now : Instant} {b : Balance}
      (moved : Balance.moved? tx.book.wallet tx.balance currency delta now = some b) :
      Staged tx { tx with newBalance := some b }
  | action {a : AdminAction} : Staged tx { tx with newActions := tx.newActions ++ [a] }

theorem key_of_staged (staged : Staged tx tx') : tx'.key = tx.key := by cases staged <;> rfl

theorem book_of_staged (staged : Staged tx tx') : tx'.book = tx.book := by cases staged <;> rfl

/-- A step inside a transaction stages something, or it fails, possibly at a fail point. -/
inductive Worked (tx : Transaction) (d : Desk) :
    EStateM.Result (Halt WalletError) Desk (Answer × Transaction) → Prop
  | done {answer : Answer} {tx' : Transaction} (staged : Staged tx tx') :
      Worked tx d (.ok (answer, tx') d)
  | failed {halt : Halt WalletError} : Worked tx d (.error halt d)
  | tripped {halt : Halt WalletError} {point : FailPoint} :
      Worked tx d (.error halt { d with ledger := d.ledger.withPoint point false })

theorem worked_run (work : TxOp) : Worked tx d ((work.run stamp tx).run d) := by
  cases work with
  | insertEntry draft =>
    simp only [TxOp.run, EStateM.run_bind, run_insertEntry]
    by_cases armed : d.ledger.armed .insertEntry
    · simp only [armed, if_true]
      exact .tripped
    by_cases used : (Transaction.entry? tx (draft.toEntry tx.key stamp.now).idempotencyKey).isSome
    · simp only [armed, used, if_true]
      exact .failed
    · simp only [armed, used]
      exact .done (.entry (by simpa using used))
  | applyDelta currency delta =>
    simp only [TxOp.run, EStateM.run_bind, run_applyDelta]
    by_cases armed : d.ledger.armed .applyDelta
    · simp only [armed, if_true]
      exact .tripped
    simp only [armed]
    cases moved : Balance.moved? tx.book.wallet tx.balance currency delta stamp.now with
    | none => exact .failed
    | some b => exact .done (.balance moved)
  | insertAction draft =>
    simp only [TxOp.run, EStateM.run_bind, run_insertAction]
    by_cases armed : d.ledger.armed .insertAdminAction
    · simp only [armed, if_true]
      exact .tripped
    · simp only [armed]
      exact .done .action
  | wallet | entries | findEntry | findAction | balance => exact .done .same

/-! ### What the operations do to the ledger -/

/-- What an operation does to the ledger. -/
inductive Move (l : Ledger) (stamp : Stamp) (next : Ledger) : Prop
  | effect (effect : Effect l stamp next)
  | begun {name : String} {key : WalletKey} {book : Book} (stored : l.books key = some book)
      (free : (l.release name).isHeld key = false)
      (ledger : next = (l.release name).hold name (.opened key book))
  | worked {name : String} {tx tx' : Transaction} (opened : l.held? name = some tx)
      (staged : Staged tx tx') (ledger : next = l.replace name tx')
  | released {name : String} (ledger : next = l.release name)
  | interrupted {name : String} {point : FailPoint}
      (ledger : next = (l.release name).withPoint point false)
  | committed {name : String} {tx : Transaction} (opened : l.held? name = some tx)
      (ledger : next = (l.release name).withBook tx.key tx.view)

/-- Every operation makes one of the moves. -/
theorem move_step (l : Ledger) (stamp : Stamp) (op : Op) :
    Move l stamp (step stamp l op).ledger := by
  cases op with
  | begin name key =>
    rw [step_begin]
    cases stored : l.books key with
    | none => exact .released rfl
    | some book =>
      by_cases held : (l.release name).isHeld key
      · simp only [held, if_true]
        exact .released rfl
      · simp only [held]
        exact .begun stored (by simpa using held) rfl
  | inside name work =>
    rw [step_inside]
    cases opened : l.held? name with
    | none => exact .effect (.same rfl)
    | some tx =>
      have worked : Worked tx (.of l) ((work.run stamp tx).run (.of l)) := worked_run work
      simp only
      -- only the three ends of the step matter, not the step
      generalize (work.run stamp tx).run (.of l) = result at worked
      cases worked with
      | done staged => exact .worked opened staged rfl
      | failed => exact .effect (.same rfl)
      | tripped => exact .effect (.point rfl)
  | commit name =>
    rw [step_commit]
    cases opened : l.held? name with
    | none => exact .effect (.same rfl)
    | some tx =>
      by_cases armed : l.armed .commit
      · simp only [armed, if_true]
        exact .interrupted rfl
      · simp only [armed]
        exact .committed opened rfl
  | rollback name =>
    rw [step_rollback]
    cases l.held? name with
    | none => exact .effect (.same rfl)
    | some tx => exact .released rfl
  | _ => exact .effect (effect_step l stamp rfl)

/-! ### Exclusion -/

/-- Each open transaction has a name and a wallet of its own, and the committed book of that
wallet. -/
structure Exclusive (l : Ledger) : Prop where
  names : (l.held.map (·.name)).Nodup
  keys : (l.held.map (·.tx.key)).Nodup
  current : ∀ h ∈ l.held, l.books h.tx.key = some h.tx.book

theorem exclusive_empty : Exclusive .empty := ⟨.nil, .nil, fun _ mem => by cases mem⟩

theorem ne_of_free (free : l.isHeld key = false) {h : HeldTransaction} (mem : h ∈ l.held) :
    h.tx.key ≠ key := by
  simp only [isHeld, List.any_eq_false, decide_eq_true_eq] at free
  exact free h mem

namespace Exclusive

theorem eq_of_name (exclusive : Exclusive l) (opened : l.held? name = some tx)
    {h : HeldTransaction} (mem : h ∈ l.held) (named : h.name = name) : h = ⟨name, tx⟩ :=
  List.inj_on_of_nodup_map exclusive.names mem (mem_of_held? opened) named

theorem eq_of_key (exclusive : Exclusive l) (opened : l.held? name = some tx)
    {h : HeldTransaction} (mem : h ∈ l.held) (same : h.tx.key = tx.key) : h = ⟨name, tx⟩ :=
  List.inj_on_of_nodup_map exclusive.keys mem (mem_of_held? opened) same

theorem stored (exclusive : Exclusive l) (opened : l.held? name = some tx) :
    l.books tx.key = some tx.book :=
  exclusive.current _ (mem_of_held? opened)

/-- Transactions may end, and books that nobody holds may change. -/
theorem of_sublist {next : Ledger} (exclusive : Exclusive l) (ended : next.held.Sublist l.held)
    (kept : ∀ h ∈ next.held, next.books h.tx.key = l.books h.tx.key) : Exclusive next where
  names := exclusive.names.sublist (ended.map _)
  keys := exclusive.keys.sublist (ended.map _)
  current h mem := (kept h mem).trans (exclusive.current h (ended.subset mem))

theorem release (exclusive : Exclusive l) (name : String) : Exclusive (l.release name) :=
  exclusive.of_sublist List.filter_sublist fun _ _ => rfl

theorem effect {next : Ledger} (exclusive : Exclusive l) (effect : Effect l stamp next) :
    Exclusive next := by
  cases effect with
  | same ledger => rwa [ledger]
  | point ledger => exact ledger ▸ exclusive.of_sublist (.refl _) fun _ _ => rfl
  | created missing ledger =>
    refine ledger ▸ exclusive.of_sublist (.refl _) fun h mem => books_withBook_of_ne fun same => ?_
    cases missing.symm.trans (same ▸ exclusive.current h mem)
  | written writes _ ledger =>
    exact ledger ▸ exclusive.of_sublist (.refl _) fun h mem =>
      books_withBook_of_ne (ne_of_free writes.free mem)

theorem begun (exclusive : Exclusive l) (stored : l.books key = some book)
    (free : (l.release name).isHeld key = false) :
    Exclusive ((l.release name).hold name (.opened key book)) := by
  have base := (exclusive.release name).release name
  -- whatever was open under the name has been given up, and the wallet was free after that
  have unnamed : ∀ h ∈ ((l.release name).release name).held, h.name ≠ name := by
    intro h mem
    simpa using (List.mem_filter.mp mem).2
  have apart : ∀ h ∈ ((l.release name).release name).held, h.tx.key ≠ key :=
    fun h mem => ne_of_free free (List.mem_filter.mp mem).1
  refine ⟨?_, ?_, fun h mem => ?_⟩
  · simp only [hold, List.map_append, List.map_cons, List.map_nil]
    refine base.names.append (List.nodup_singleton _) fun n mem new => ?_
    obtain ⟨h, kept, rfl⟩ := List.mem_map.mp mem
    exact unnamed h kept (List.mem_singleton.mp new)
  · simp only [hold, List.map_append, List.map_cons, List.map_nil]
    refine base.keys.append (List.nodup_singleton _) fun k mem new => ?_
    obtain ⟨h, kept, rfl⟩ := List.mem_map.mp mem
    exact apart h kept (List.mem_singleton.mp new)
  · rcases List.mem_append.mp mem with old | new
    · exact base.current h old
    · rw [List.mem_singleton.mp new]
      exact stored

theorem worked (exclusive : Exclusive l) (opened : l.held? name = some tx)
    (staged : Staged tx tx') : Exclusive (l.replace name tx') := by
  -- only the transaction of that name is replaced, by one on the same wallet and book
  have same : ∀ h ∈ l.held, (swapped name tx' h).name = h.name ∧
      (swapped name tx' h).tx.key = h.tx.key ∧ (swapped name tx' h).tx.book = h.tx.book := by
    intro h mem
    by_cases named : h.name = name
    · cases exclusive.eq_of_name opened mem named
      simp [swapped, key_of_staged staged, book_of_staged staged]
    · simp [swapped, named]
  refine ⟨?_, ?_, fun h mem => ?_⟩
  · have names : (l.replace name tx').held.map (·.name) = l.held.map (·.name) := by
      simp only [replace, List.map_map]
      exact List.map_congr_left fun h mem => (same h mem).1
    rw [names]
    exact exclusive.names
  · have keys : (l.replace name tx').held.map (·.tx.key) = l.held.map (·.tx.key) := by
      simp only [replace, List.map_map]
      exact List.map_congr_left fun h mem => (same h mem).2.1
    rw [keys]
    exact exclusive.keys
  · obtain ⟨old, held, rfl⟩ := List.mem_map.mp mem
    rw [(same old held).2.1, (same old held).2.2]
    exact exclusive.current old held

theorem committed (exclusive : Exclusive l) (opened : l.held? name = some tx) :
    Exclusive ((l.release name).withBook tx.key tx.view) := by
  refine exclusive.of_sublist List.filter_sublist fun h mem =>
    books_withBook_of_ne fun same => ?_
  -- a transaction on the wallet would be the one that has just been closed
  obtain ⟨mem, unnamed⟩ := List.mem_filter.mp mem
  cases exclusive.eq_of_key opened mem same
  simp at unnamed

theorem step (exclusive : Exclusive l) (stamp : Stamp) (op : Op) :
    Exclusive (step stamp l op).ledger := by
  cases move_step l stamp op with
  | effect effect => exact exclusive.effect effect
  | begun stored free ledger => exact ledger ▸ exclusive.begun stored free
  | worked opened staged ledger => exact ledger ▸ exclusive.worked opened staged
  | released ledger => exact ledger ▸ exclusive.release _
  | interrupted ledger =>
    exact ledger ▸ (exclusive.release _).of_sublist (.refl _) fun _ _ => rfl
  | committed opened ledger => exact ledger ▸ exclusive.committed opened

end Exclusive

/-- Open transactions are exclusive throughout every run. -/
theorem exclusive_after (script : List (Stamp × Op)) : Exclusive (after .empty script) :=
  after_keeps (fun _ => True) (fun _ exclusive => exclusive.step _ _) (fun _ _ => trivial)
    exclusive_empty

end CallExchange.Ledger
