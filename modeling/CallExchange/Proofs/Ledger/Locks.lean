import CallExchange.Proofs.Ledger.Acknowledgement

/-!
# Waiting for a wallet

Every operation of the service that reads or writes a book needs the wallet for itself. Its
arguments are checked before that, so that a request that is not in order is refused even while the
wallet is held. A request that is in order waits, and nothing has happened by then: the outcome is the same
whatever the time and the fresh identifiers are.

## Main definitions

* `Op.lock?` — the wallet that an operation of the service needs for itself
* `Op.objection?` — what is wrong with the arguments of an operation

## Main results

* `step_of_objection` — a request that is not in order is refused at once
* `step_of_held` — a request that is in order waits
-/

namespace CallExchange.Ledger

variable {l : Ledger} {stamp : Stamp} {op : Op} {key : WalletKey} {p : Posting} {book : Book}
  {cause : Refusal}

/-- The wallet that an operation of the service needs for itself. -/
def Op.lock? : Op → Option WalletKey
  | .credit key _ | .debit key _ | .adminCredit key .. | .balance key | .storedBalance key
  | .entries key | .reconcile key | .adminActions key => some key
  | .createWallet .. | .failNext _ | .begin .. | .inside .. | .commit _ | .rollback _ => none

/-- What is wrong with the arguments of an operation of the service. -/
def Op.objection? : Op → Option Refusal
  | .credit key r => (Posting.ofCredit r).objection? key
  | .debit key r => (Posting.ofDebit r).objection? key
  | .adminCredit key actor r => (Posting.ofAdminCredit actor r).objection? key
  | .balance key | .entries key | .reconcile key => key.refusal?
  | .storedBalance _ | .adminActions _ | .createWallet .. | .failNext _ | .begin .. | .inside ..
  | .commit _ | .rollback _ => none

/-! ### Postings -/

theorem posting_of_objection (posts : op.posting? = some (key, p))
    (found : p.objection? key = some cause) :
    step stamp l op = ⟨.error (.failed (.invalidArgument cause)), l, [], []⟩ := by
  obtain ⟨wrap, -, stepped⟩ := step_of_posting l stamp posts
  rw [stepped]
  cases kind : p.kind.refusal? with
  | some own =>
    have same : own = cause := by simpa [Posting.objection?, kind] using found
    rw [same]
  | none =>
    rw [Posting.objection?, kind, Option.none_or] at found
    simp only [run_post, found]
    rfl

theorem posting_of_held (posts : op.posting? = some (key, p)) (checked : p.objection? key = none)
    (stored : l.books key = some book) (held : l.isHeld key = true) :
    step stamp l op = ⟨.error .waiting, l, [], []⟩ := by
  obtain ⟨wrap, -, stepped⟩ := step_of_posting l stamp posts
  obtain ⟨kind, rest⟩ := Option.or_eq_none_iff.mp checked
  rw [stepped]
  simp only [kind, run_post, rest, Desk.of, stored, held, if_true]
  rfl

/-! ### Readers -/

theorem run_begin_of_held (stored : l.books key = some book) (held : l.isHeld key = true) :
    (begin key).run (.of l) = .error .waiting (.of l) := by
  simp only [run_begin, Desk.of, stored, held, if_true]

theorem run_book?_of_held (stored : l.books key = some book) (held : l.isHeld key = true) :
    (book? key).run (.of l) = .error .waiting (.of l) := by
  simp only [run_book?, Desk.of, stored, held, if_true]

/-! ### Every operation that needs the wallet -/

/-- A request that is not in order is refused, whether the wallet is held or not. -/
theorem step_of_objection (locks : op.lock? = some key) (found : op.objection? = some cause) :
    step stamp l op = ⟨.error (.failed (.invalidArgument cause)), l, [], []⟩ := by
  cases op with
  | credit | debit | adminCredit => exact posting_of_objection rfl found
  | balance | entries | reconcile =>
    have refused : WalletKey.refusal? _ = some cause := found
    simp only [step, LedgerM.outcome, Op.action, balance, entries, reconcile, EStateM.run_bind,
      run_refuse, refused]
    rfl
  | storedBalance | adminActions => cases found
  | createWallet | failNext | begin | inside | commit | rollback => cases locks

/-- A request that is in order waits while the wallet is held, and nothing else happens. -/
theorem step_of_held (locks : op.lock? = some key) (checked : op.objection? = none)
    (stored : l.books key = some book) (held : l.isHeld key = true) :
    step stamp l op = ⟨.error .waiting, l, [], []⟩ := by
  have book_waits := run_book?_of_held stored held
  have begin_waits := run_begin_of_held stored held
  cases op with
  | credit | debit | adminCredit =>
    cases locks
    exact posting_of_held rfl checked stored held
  | balance =>
    cases locks
    rw [step_balance, show key.refusal? = none from checked]
    simp only [stored, held, if_true]
  | entries | reconcile =>
    cases locks
    have named : key.refusal? = none := checked
    simp only [step, LedgerM.outcome, Op.action, entries, reconcile, EStateM.run_bind, run_refuse,
      named, begin_waits]
    rfl
  | storedBalance | adminActions =>
    cases locks
    simp only [step, LedgerM.outcome, Op.action, storedBalance, adminActions, EStateM.run_bind,
      book_waits]
    rfl
  | createWallet | failNext | begin | inside | commit | rollback => cases locks

end CallExchange.Ledger
