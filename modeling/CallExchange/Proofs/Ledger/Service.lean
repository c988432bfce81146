import CallExchange.Proofs.Ledger.Posted

/-!
# Runs of the service

An operation of the service leaves no transaction open. Apart from postings it reads, registers a
wallet, or arms a fail point. Whatever every operation of a kind keeps, a run of such operations
keeps.

## Main definitions

* `Op.serves` — the operation is one of the service
* `Op.named?` — the wallet that an operation names
* `Ledger.Quiet` — an operation that changes nothing but the log
* `Ledger.Served` — what an operation of the service leaves behind
* `Ledger.Effect` — what it does to the ledger
* `Ledger.after` — the ledger after a list of operations

## Main results

* `served_step` — the operations of the service do nothing else
* `after_keeps` — from one operation to a run
-/

namespace CallExchange.Ledger

/-! ### Operations that only read -/

section

variable {α β : Type} {m : LedgerM α} {f : α → LedgerM β} {key : WalletKey}

/-- The desk after an operation, whether it has answered or halted. -/
def deskAfter {α : Type} (m : LedgerM α) (d : Desk) : Desk :=
  match m.run d with
  | .ok _ d => d
  | .error _ d => d

/-- The operation changes nothing but the log, and no fail point makes it fail. -/
structure Quiet {α : Type} (m : LedgerM α) : Prop where
  kept : ∀ d, (deskAfter m d).ledger = d.ledger ∧ (deskAfter m d).reports = d.reports
  uninjected : ∀ {d e d'}, m.run d = .error (.failed e) d' → e.injected? = none

theorem Quiet.bind (quiet : Quiet m) (rest : ∀ a, Quiet (f a)) : Quiet (m >>= f) where
  kept d := by
    have first := quiet.kept d
    simp only [deskAfter, EStateM.run_bind] at first ⊢
    cases result : m.run d with
    | error halt d' => simpa only [result] using first
    | ok a d' =>
      simp only [result] at first ⊢
      have second := (rest a).kept d'
      exact ⟨second.1.trans first.1, second.2.trans first.2⟩
  uninjected {d e d'} failed := by
    rw [EStateM.run_bind] at failed
    cases result : m.run d with
    | error halt d' =>
      rw [result] at failed
      cases failed
      exact quiet.uninjected result
    | ok a d' =>
      rw [result] at failed
      exact (rest a).uninjected failed

theorem quiet_pure (a : α) : Quiet (pure a : LedgerM α) where
  kept _ := ⟨rfl, rfl⟩
  uninjected failed := by cases failed

theorem quiet_fail {e : WalletError} (uninjected : e.injected? = none) :
    Quiet (fail e : LedgerM α) where
  kept _ := ⟨rfl, rfl⟩
  uninjected failed := by
    cases failed
    exact uninjected

theorem quiet_noteIf (c : Prop) [Decidable c] (e : LogEvent) : Quiet (noteIf c e) where
  kept _ := by simp [deskAfter]
  uninjected failed := by simp at failed

theorem quiet_refuse (cause : Option Refusal) : Quiet (refuse cause) := by
  cases cause with
  | none => exact quiet_pure ()
  | some cause => exact quiet_fail rfl

theorem quiet_book? : Quiet (book? key) := by
  -- whether the book is read or waited for, the desk stays as it is
  have ends (d : Desk) :
      (∃ book, (book? key).run d = .ok book d) ∨ (book? key).run d = .error .waiting d := by
    rw [run_book?]
    cases d.ledger.books key with
    | none => exact .inl ⟨none, rfl⟩
    | some book => by_cases held : d.ledger.isHeld key <;> simp [held]
  constructor
  · intro d
    rcases ends d with ⟨book, ended⟩ | ended <;> simp [deskAfter, ended]
  · intro d e d' failed
    rcases ends d with ⟨book, ended⟩ | ended <;> simp [ended] at failed

theorem quiet_begin : Quiet (begin key) := by
  refine quiet_book?.bind fun book => ?_
  cases book with
  | none => exact quiet_fail rfl
  | some book => exact quiet_pure _

theorem quiet_storedBalance : Quiet (storedBalance key) :=
  quiet_book?.bind fun _ => quiet_pure _

theorem quiet_adminActions : Quiet (adminActions key) :=
  quiet_book?.bind fun _ => quiet_pure _

theorem quiet_balance : Quiet (balance key) := by
  refine (quiet_refuse _).bind fun _ => quiet_storedBalance.bind fun b => ?_
  cases b with
  | none => exact quiet_fail rfl
  | some b => exact quiet_pure b

theorem quiet_entries : Quiet (entries key) :=
  (quiet_refuse _).bind fun _ => quiet_begin.bind fun _ => quiet_pure _

theorem quiet_reconcile : Quiet (reconcile key) := by
  refine (quiet_refuse _).bind fun _ => quiet_begin.bind fun tx => ?_
  cases Minor.sum? (tx.entries.map (·.amount)) with
  | none => exact quiet_fail rfl
  | some sum => exact (quiet_noteIf _ _).bind fun _ => quiet_pure _

end

/-! ### One operation of the service -/

/-- The operation is one of the service. -/
def Op.serves : Op → Bool
  | .begin .. | .inside .. | .commit _ | .rollback _ => false
  | .createWallet .. | .failNext _ | .credit .. | .debit .. | .adminCredit .. | .balance _
  | .storedBalance _ | .entries _ | .reconcile _ | .adminActions _ => true

/-- The wallet that an operation names. -/
def Op.named? : Op → Option WalletKey
  | .createWallet w => some w.key
  | .credit key _ | .debit key _ | .adminCredit key .. | .balance key | .storedBalance key
  | .entries key | .reconcile key | .adminActions key | .begin _ key => some key
  | .failNext _ | .inside .. | .commit _ | .rollback _ => none

variable {l : Ledger} {stamp : Stamp} {op : Op} {o : Outcome} {key : WalletKey}

theorem named_of_posting {p : Posting} (posts : op.posting? = some (key, p)) :
    op.named? = some key := by
  cases op <;> cases posts <;> rfl

/-- What an operation of the service leaves behind. -/
inductive Served (l : Ledger) (stamp : Stamp) (op : Op) (o : Outcome) : Prop
  | unchanged (posts : op.posting? = none)
      (uninjected : ∀ e, o.answer = .error (.failed e) → e.injected? = none)
      (ledger : o.ledger = l) (reports : o.reports = [])
  | created {w : Wallet} (posts : op.posting? = none) (answer : o.answer = .ok .done)
      (missing : l.books w.key = none) (ledger : o.ledger = l.withBook w.key (.new w))
      (reports : o.reports = []) (named : op.named? = some w.key)
  | armed {point : FailPoint} (posts : op.posting? = none) (answer : o.answer = .ok .done)
      (ledger : o.ledger = l.withPoint point true) (reports : o.reports = [])
      (asked : op = .failNext point)
  | posted {key : WalletKey} {p : Posting} (posts : op.posting? = some (key, p))
      (posted : Posted l stamp key p o)

theorem run_createWallet {d : Desk} {w : Wallet} :
    (createWallet w).run d =
      match d.ledger.books w.key with
      | some _ => .error (.failed (.invalidArgument (.walletExists w.id))) d
      | none => .ok () { d with ledger := d.ledger.withBook w.key (.new w) } := by
  simp only [createWallet, EStateM.run_bind, EStateM.run_get]
  cases d.ledger.books w.key <;> rfl

theorem step_createWallet {w : Wallet} :
    step stamp l (.createWallet w) =
      match l.books w.key with
      | some _ => ⟨.error (.failed (.invalidArgument (.walletExists w.id))), l, [], []⟩
      | none => ⟨.ok .done, l.withBook w.key (.new w), [], []⟩ := by
  simp only [step, LedgerM.outcome, Op.action, EStateM.run_bind, run_createWallet]
  cases stored : l.books w.key <;> simp [Desk.of, stored]

theorem served_of_quiet (posts : op.posting? = none) (quiet : Quiet (op.action stamp)) :
    Served l stamp op (step stamp l op) := by
  have kept := quiet.kept (.of l)
  simp only [step, LedgerM.outcome, deskAfter] at kept ⊢
  cases result : (op.action stamp).run (.of l) with
  | ok answer d =>
    rw [result] at kept
    refine .unchanged posts ?_ kept.1 kept.2
    rintro e ⟨⟩
  | error halt d =>
    rw [result] at kept
    refine .unchanged posts ?_ kept.1 kept.2
    rintro e ⟨⟩
    exact quiet.uninjected result

/-- An operation of the service reads, registers a wallet, arms a point or posts. -/
theorem served_step (l : Ledger) (stamp : Stamp) (serves : op.serves = true) :
    Served l stamp op (step stamp l op) := by
  cases op with
  | createWallet w =>
    rw [step_createWallet]
    cases stored : l.books w.key with
    | some book =>
      refine .unchanged rfl ?_ rfl rfl
      rintro e ⟨⟩
      rfl
    | none => exact .created rfl rfl stored rfl rfl rfl
  | failNext point => exact .armed rfl rfl rfl rfl rfl
  | credit | debit | adminCredit => exact .posted rfl (posted_step l stamp rfl)
  | balance => exact served_of_quiet rfl (quiet_balance.bind fun _ => quiet_pure _)
  | storedBalance => exact served_of_quiet rfl (quiet_storedBalance.bind fun _ => quiet_pure _)
  | entries => exact served_of_quiet rfl (quiet_entries.bind fun _ => quiet_pure _)
  | reconcile => exact served_of_quiet rfl (quiet_reconcile.bind fun _ => quiet_pure _)
  | adminActions => exact served_of_quiet rfl (quiet_adminActions.bind fun _ => quiet_pure _)
  | begin | inside | commit | rollback => cases serves

/-- What an operation of the service does to the ledger. -/
inductive Effect (l : Ledger) (stamp : Stamp) (next : Ledger) : Prop
  | same (ledger : next = l)
  | point {point : FailPoint} {on : Bool} (ledger : next = l.withPoint point on)
  | created {w : Wallet} (missing : l.books w.key = none)
      (ledger : next = l.withBook w.key (.new w))
  | written {key : WalletKey} {p : Posting} {book : Book} {b : Balance}
      (writes : Writes l key p book)
      (moved : Balance.moved? book.wallet book.balance p.currency p.signed stamp.now = some b)
      (ledger : next =
        l.withBook key (book.recorded (p.entry stamp key) b (p.action? stamp key)))

theorem effect_step (l : Ledger) (stamp : Stamp) (serves : op.serves = true) :
    Effect l stamp (step stamp l op).ledger := by
  cases served_step l stamp serves with
  | unchanged _ _ ledger => exact .same ledger
  | created _ _ missing ledger => exact .created missing ledger
  | armed _ _ ledger => exact .point ledger
  | posted _ posted =>
    cases posted with
    | failed _ _ ledger => exact .same ledger
    | waited _ _ _ _ ledger => exact .same ledger
    | tripped _ _ _ ledger => exact .point ledger
    | replayed _ _ _ _ _ ledger => exact .same ledger
    | written writes _ moved _ ledger => exact .written writes moved ledger

/-- The service opens no transaction that stays open. -/
theorem held_step (serves : op.serves = true) : (step stamp l op).ledger.held = l.held := by
  cases effect_step l stamp serves with
  | same ledger | point ledger | created _ ledger | written _ _ ledger => simp [ledger]

/-! ### Runs -/

/-- The ledger after a list of operations. -/
def after (l : Ledger) (script : List (Stamp × Op)) : Ledger := (run l script).2

@[simp] theorem after_nil : after l [] = l := rfl

@[simp] theorem after_cons {s : Stamp × Op} {script : List (Stamp × Op)} :
    after l (s :: script) = after (step s.1 l s.2).ledger script := rfl

theorem after_append (l : Ledger) (script more : List (Stamp × Op)) :
    after l (script ++ more) = after (after l script) more := by
  induction script generalizing l with
  | nil => rfl
  | cons s script ih => simp only [List.cons_append, after_cons, ih]

/-- The ledger after an operation of a list is that after those before it, and one step. -/
theorem after_take_succ {script : List (Stamp × Op)} {i : Nat}
    (operation : script[i]? = some (stamp, op)) :
    after l (script.take (i + 1)) = (step stamp (after l (script.take i)) op).ledger := by
  rw [List.take_add_one, operation, after_append]
  rfl

/-- Whatever each of the allowed operations keeps, a run of them keeps. -/
theorem after_keeps (allowed : Op → Prop) {I : Ledger → Prop}
    (keeps : ∀ {stamp l op}, allowed op → I l → I (step stamp l op).ledger)
    {script : List (Stamp × Op)} (ops : ∀ s ∈ script, allowed s.2) (start : I l) :
    I (after l script) := by
  -- the invariant of the first ledger carries over to the ledger that the rest starts from
  induction script generalizing l with
  | nil => exact start
  | cons s script ih =>
    rw [after_cons]
    exact ih (fun t mem => ops t (List.mem_cons_of_mem s mem))
      (keeps (ops s List.mem_cons_self) start)

theorem held_after {script : List (Stamp × Op)} (served : ∀ s ∈ script, s.2.serves = true) :
    (after l script).held = l.held :=
  after_keeps (I := fun next => next.held = l.held) (fun op => op.serves = true)
    (fun serves closed => (held_step serves).trans closed) served rfl

theorem free_of_closed (closed : l.held = []) : l.isHeld key = false := by
  simp [isHeld, closed]

/-! ### A run for examples -/

/-- Identifiers that differ for different numbers below 32. -/
def sampleId (n : Nat) : Uuid :=
  ⟨Uuid.nil.digits.set n ⟨1, by decide⟩, List.length_set.trans Uuid.nil.length_digits⟩

/-- The stamp of the operation of a number below 16. -/
def sampleStamp (n : Nat) : Stamp := ⟨.start, sampleId n, sampleId (n + 16)⟩

def sampleKey : WalletKey := ⟨"acme", "main"⟩

/-- A wallet in use, under any key. -/
def sampleWallet (key : WalletKey) : Wallet :=
  ⟨key.walletId, key.workspaceId, "USD", .active, .start, .start⟩

def samplePosting (amount : Minor) (idempotencyKey : String) : PostingRequest :=
  ⟨amount, "USD", none, idempotencyKey, none⟩

/-- A wallet is credited with all that an amount can be, at the second attempt, and charged. Two
more postings are refused, and the last one reuses a key. -/
def sampleRun : List (Stamp × Op) :=
  [(sampleStamp 0, .createWallet (sampleWallet sampleKey)),
    (sampleStamp 1, .failNext .commit),
    (sampleStamp 2, .credit sampleKey (samplePosting Int64.maxValue "invoice")),
    (sampleStamp 3, .credit sampleKey (samplePosting Int64.maxValue "invoice")),
    (sampleStamp 4, .credit sampleKey (samplePosting 1 "excess")),
    (sampleStamp 5, .debit sampleKey (samplePosting 40 "call")),
    (sampleStamp 6, .debit sampleKey (samplePosting Int64.maxValue "overdraft")),
    (sampleStamp 7, .debit sampleKey (samplePosting 7 "invoice"))]

end CallExchange.Ledger
