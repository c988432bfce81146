import CallExchange.Ledger.Lemmas
import CallExchange.Ledger.Script

/-!
# What a posting comes to

A credit, a debit and an administrator's credit run through the same stages: the checks of their
arguments, the lock on the wallet, its currency, and then a replay or a write. This module says once
how such an operation can end and what it leaves behind, so that later arguments split on the end
and not on the stages.

## Main definitions

* `Op.posting?` — the wallet and the posting of an operation that posts
* `Posting.objection?` — what is wrong with the arguments of a posting, those of its kind first
* `Posting.points` — the fail points that a posting passes, in order
* `WalletError.injected?`, `WalletError.disarmed` — the fail point behind an error, and what the
  error leaves armed
* `Book.recorded` — a book after an entry with its balance and its action
* `Ledger.Fails` — the errors of a posting that no fail point causes
* `Ledger.Posted` — the five ends of a posting

## Main results

* `posted_step` — an operation that posts comes to one of the five ends
* `written_of_receipt`, `stored_of_receipt` — what a receipt stands for
-/

namespace CallExchange

open Text

/-- The fail point that made an operation fail, if one did. -/
def WalletError.injected? : WalletError → Option FailPoint
  | .persistence (.injected point) => some point
  | _ => none

/-- What is left armed by an error: an injected failure uses its point up. -/
def WalletError.disarmed (e : WalletError) (armed : FailPoint → Bool) : FailPoint → Bool :=
  match e.injected? with
  | some point => fun q => if q = point then false else armed q
  | none => armed

theorem WalletError.disarmed_of_uninjected {e : WalletError} {armed : FailPoint → Bool}
    (uninjected : e.injected? = none) : e.disarmed armed = armed := by
  simp only [disarmed, uninjected]

/-- What is wrong with the actor or the reason of an administrator's credit. -/
def PostingKind.refusal? : PostingKind → Option Refusal
  | .credit | .debit => none
  | .adminCredit actor reason =>
    if isBlank actor.userId then some .adminUserRequired
    else if isBlank reason then some .reasonRequired
    else none

namespace Posting

section

variable {p : Posting} {stamp : Stamp} {key : WalletKey}

@[simp] theorem id_entry : (p.entry stamp key).id = stamp.entryId := rfl

@[simp] theorem entryType_entry : (p.entry stamp key).entryType = p.kind.entryType := rfl

@[simp] theorem amount_entry : (p.entry stamp key).amount = p.signed := rfl

@[simp] theorem idempotencyKey_entry : (p.entry stamp key).idempotencyKey = p.idempotencyKey := rfl

end

/-- What is wrong with the arguments of a posting to a wallet, before the wallet is looked at. -/
def objection? (p : Posting) (key : WalletKey) : Option Refusal :=
  p.kind.refusal?.or (key.refusal?.or p.refusal?)

/-- The fail points that a posting passes, in the order in which it passes them. -/
def points (p : Posting) : List FailPoint :=
  match p.kind with
  | .credit | .debit => [.insertEntry, .applyDelta, .commit]
  | .adminCredit .. => [.insertEntry, .applyDelta, .insertAdminAction, .commit]

end Posting

/-- The book with one more entry, the balance after it, and the action that belongs to it. -/
def Book.recorded (book : Book) (e : Entry) (b : Balance) (a : Option AdminAction) : Book :=
  ⟨book.wallet, some b, book.entries ++ [e], book.actions ++ a.toList⟩

namespace Ledger

/-- The wallet and the posting of an operation that posts. -/
def Op.posting? : Op → Option (WalletKey × Posting)
  | .credit key r => some (key, .ofCredit r)
  | .debit key r => some (key, .ofDebit r)
  | .adminCredit key actor r => some (key, .ofAdminCredit actor r)
  | _ => none

/-- The receipt in an answer to a posting. -/
def Answer.receipt? : Answer → Option Receipt
  | .receipt r | .adminReceipt r => some r
  | _ => none

/-- The answer of an operation, read as that of a posting. -/
def Outcome.receipt (o : Outcome) : Except (Halt WalletError) (Option Receipt) :=
  o.answer.map Answer.receipt?

theorem Outcome.receipt_of_error {o : Outcome} {h : Halt WalletError}
    (answer : o.answer = .error h) :
    o.receipt = .error h := by
  rw [Outcome.receipt, answer]
  rfl

theorem Outcome.answer_of_receipt {o : Outcome} {r : Receipt} (receipt : o.receipt = .ok (some r)) :
    ∃ answer, o.answer = .ok answer ∧ answer.receipt? = some r := by
  rw [Outcome.receipt] at receipt
  cases answer : o.answer with
  | error halt =>
    rw [answer] at receipt
    cases receipt
  | ok a =>
    rw [answer] at receipt
    exact ⟨a, rfl, Except.ok.inj receipt⟩

/-- A posting passes the checks of its arguments and gets hold of the wallet. -/
structure Opens (l : Ledger) (key : WalletKey) (p : Posting) (book : Book) : Prop where
  checked : p.objection? key = none
  stored : l.books key = some book
  free : l.isHeld key = false

/-- A posting in the wallet's currency, with a new key and with funds. -/
structure Writes (l : Ledger) (key : WalletKey) (p : Posting) (book : Book) : Prop
    extends Opens l key p book where
  currency : book.wallet.currency = p.currency
  unused : Entry.find? book.entries p.idempotencyKey = none
  funded : shortfall? p book.balance = none

/-- The errors of a posting that no fail point causes. -/
inductive Fails (l : Ledger) (now : Instant) (key : WalletKey) (p : Posting) : WalletError → Prop
  | objection {cause : Refusal} (found : p.objection? key = some cause) :
      Fails l now key p (.invalidArgument cause)
  | unknown (checked : p.objection? key = none) (missing : l.books key = none) :
      Fails l now key p (.notFound (.wallet key.walletId))
  | foreign {book : Book} (opens : Opens l key p book)
      (differs : book.wallet.currency ≠ p.currency) :
      Fails l now key p (.invalidArgument (.walletCurrency p.currency book.wallet.currency))
  | unbalanced {book : Book} {stored : Entry} (opens : Opens l key p book)
      (currency : book.wallet.currency = p.currency)
      (used : Entry.find? book.entries p.idempotencyKey = some stored)
      (missing : book.balance = none) :
      Fails l now key p (.notFound (.balance key.walletId))
  | short {book : Book} {e : WalletError} (opens : Opens l key p book)
      (currency : book.wallet.currency = p.currency)
      (unused : Entry.find? book.entries p.idempotencyKey = none)
      (lacks : shortfall? p book.balance = some e) :
      Fails l now key p e
  | overflow {book : Book} (writes : Writes l key p book)
      (entryUnarmed : l.armed .insertEntry = false) (deltaUnarmed : l.armed .applyDelta = false)
      (exceeds : Balance.moved? book.wallet book.balance p.currency p.signed now = none) :
      Fails l now key p (.persistence .balanceOverflow)

/-- The five ends of a posting, with what each leaves behind. -/
inductive Posted (l : Ledger) (stamp : Stamp) (key : WalletKey) (p : Posting) (o : Outcome) : Prop
  | failed {e : WalletError} (why : Fails l stamp.now key p e)
      (answer : o.receipt = .error (.failed e)) (ledger : o.ledger = l) (reports : o.reports = [])
  | waited {book : Book} (checked : p.objection? key = none) (stored : l.books key = some book)
      (held : l.isHeld key = true)
      (answer : o.receipt = .error .waiting) (ledger : o.ledger = l) (reports : o.reports = [])
  | tripped {book : Book} {point : FailPoint} (writes : Writes l key p book)
      (armed : p.points.find? l.armed = some point)
      (answer : o.receipt = .error (.failed (.persistence (.injected point))))
      (ledger : o.ledger = l.withPoint point false) (reports : o.reports = [])
  | replayed {book : Book} {stored : Entry} {b : Balance} (opens : Opens l key p book)
      (currency : book.wallet.currency = p.currency)
      (used : Entry.find? book.entries p.idempotencyKey = some stored)
      (balance : book.balance = some b)
      (answer : o.receipt =
        .ok (some ⟨stored, b, p.storedAction? (.opened key book) stored, true⟩))
      (ledger : o.ledger = l) (reports : o.reports = [])
  | written {book : Book} {b : Balance} (writes : Writes l key p book)
      (unarmed : p.points.find? l.armed = none)
      (moved : Balance.moved? book.wallet book.balance p.currency p.signed stamp.now = some b)
      (answer : o.receipt = .ok (some ⟨p.entry stamp key, b, p.action? stamp key, false⟩))
      (ledger : o.ledger =
        l.withBook key (book.recorded (p.entry stamp key) b (p.action? stamp key)))
      (reports : o.reports = (p.action? stamp key).toList)

/-! ### The stages of a posting -/

section

variable {d : Desk} {stamp : Stamp} {key : WalletKey} {p : Posting} {book : Book}

theorem run_insertAction? {tx : Transaction} {a : Option AdminAction} :
    (insertAction? tx a).run d =
      if a.isSome ∧ d.ledger.armed .insertAdminAction then
        .error (.failed (.persistence (.injected .insertAdminAction)))
          { d with ledger := d.ledger.withPoint .insertAdminAction false }
      else .ok { tx with newActions := tx.newActions ++ a.toList } d := by
  cases a with
  | none => simp [insertAction?]
  | some a => simp [insertAction?]

/-- A posting after the checks of its kind, up to its currency. -/
theorem run_post :
    (post stamp key p).run d =
      match key.refusal?.or p.refusal? with
      | some cause => .error (.failed (.invalidArgument cause)) d
      | none =>
        match d.ledger.books key with
        | none => .error (.failed (.notFound (.wallet key.walletId))) d
        | some book =>
          if d.ledger.isHeld key then .error .waiting d
          else if book.wallet.currency ≠ p.currency then
            .error (.failed (.invalidArgument (.walletCurrency p.currency book.wallet.currency))) d
          else
            match Entry.find? book.entries p.idempotencyKey with
            | some stored => (replay key p (.opened key book) stored).run d
            | none => (write stamp key p (.opened key book)).run d := by
  -- one split for each stage, in the order of the program
  simp only [post, EStateM.run_bind, run_refuse, run_begin]
  cases key.refusal? with
  | some cause => simp
  | none =>
    cases p.refusal? with
    | some cause => simp
    | none =>
      cases stored : d.ledger.books key with
      | none => simp [stored]
      | some book =>
        by_cases held : d.ledger.isHeld key
        · simp [stored, held]
        · by_cases currency : book.wallet.currency = p.currency
          · have committed :
                Transaction.entry? (.opened key book) p.idempotencyKey =
                  Entry.find? book.entries p.idempotencyKey := by
              simp [Transaction.entry?, Transaction.entries, Transaction.opened]
            have wallet : (Transaction.opened key book).book.wallet = book.wallet := rfl
            cases used : Entry.find? book.entries p.idempotencyKey <;>
              simp [stored, held, currency, committed, wallet, used]
          · simp [stored, held, currency, Transaction.opened]

theorem view_of_write {e : Entry} {b : Balance} {a : Option AdminAction} :
    Transaction.view ⟨key, book, [e], some b, a.toList⟩ = book.recorded e b a := by
  simp [Transaction.view, Transaction.balance, Transaction.entries, Transaction.actions,
    Book.recorded]

/-- A posting whose key is new, from the check of its funds to its commit. -/
theorem run_write (unused : Entry.find? book.entries p.idempotencyKey = none) :
    (write stamp key p (.opened key book)).run d =
      match shortfall? p book.balance with
      | some e => .error (.failed e) d
      | none =>
        if d.ledger.armed .insertEntry then
          .error (.failed (.persistence (.injected .insertEntry)))
            { d with ledger := d.ledger.withPoint .insertEntry false }
        else if d.ledger.armed .applyDelta then
          .error (.failed (.persistence (.injected .applyDelta)))
            { d with ledger := d.ledger.withPoint .applyDelta false }
        else
          match Balance.moved? book.wallet book.balance p.currency p.signed stamp.now with
          | none => .error (.failed (.persistence .balanceOverflow)) d
          | some b =>
            if (p.action? stamp key).isSome ∧ d.ledger.armed .insertAdminAction then
              .error (.failed (.persistence (.injected .insertAdminAction)))
                { d with ledger := d.ledger.withPoint .insertAdminAction false }
            else if d.ledger.armed .commit then
              .error (.failed (.persistence (.injected .commit)))
                { d with ledger := d.ledger.withPoint .commit false }
            else
              .ok ⟨p.entry stamp key, b, p.action? stamp key, false⟩
                { d with
                  ledger := d.ledger.withBook key
                    (book.recorded (p.entry stamp key) b (p.action? stamp key))
                  log := d.log ++
                    [.posted key stamp.entryId p.kind.entryType p.signed b.amount] } := by
  have committed (es : List Entry) (as : List AdminAction) :
      Transaction.balance ⟨key, book, es, none, as⟩ = book.balance := by
    simp [Transaction.balance]
  -- so the store's own check for a duplicate key never fires
  have free : Transaction.entry? ⟨key, book, [], none, []⟩ p.idempotencyKey = none := by
    simpa [Transaction.entry?, Transaction.entries] using unused
  simp only [write, Transaction.opened, EStateM.run_bind, run_checkFunds, committed]
  cases shortfall? p book.balance with
  | some e => rfl
  | none =>
    by_cases entryArmed : d.ledger.armed .insertEntry
    · simp [entryArmed]
    by_cases deltaArmed : d.ledger.armed .applyDelta
    · simp [entryArmed, deltaArmed, free]
    cases moved : Balance.moved? book.wallet book.balance p.currency p.signed stamp.now with
    | none => simp [entryArmed, deltaArmed, free, committed, moved]
    | some b =>
      by_cases actionArmed :
          (p.action? stamp key).isSome ∧ d.ledger.armed .insertAdminAction
      · simp [entryArmed, deltaArmed, free, committed, moved, run_insertAction?, actionArmed]
      · by_cases commitArmed : d.ledger.armed .commit <;>
          simp [entryArmed, deltaArmed, free, committed, moved, run_insertAction?, actionArmed,
            commitArmed, view_of_write]

end

/-! ### The ends of a posting -/

section

variable {l : Ledger} {stamp : Stamp} {key : WalletKey} {p : Posting} {op : Op}

/-- The actions that a receipt makes known. -/
def news (p : Posting) (r : Receipt) : List AdminAction :=
  match p.kind, r.replayed with
  | .adminCredit .., false => r.action.toList
  | _, _ => []

theorem run_reportFresh {r : Receipt} {d : Desk} :
    (reportFresh r).run d =
      .ok () { d with reports := d.reports ++ if r.replayed then [] else r.action.toList } := by
  obtain ⟨entry, balance, action, replayed⟩ := r
  cases replayed <;> cases action <;> simp [reportFresh]

/-- The outcome of an operation that posts and passes the receipt on. -/
def Outcome.ofPost (wrap : Receipt → Answer) (p : Posting) :
    EStateM.Result (Halt WalletError) Desk Receipt → Outcome
  | .ok r d => ⟨.ok (wrap r), d.ledger, d.log, d.reports ++ news p r⟩
  | .error halt d => ⟨.error halt, d.ledger, d.log, d.reports⟩

/-- The three operations that post differ in the checks of their kind and in the form of their
answer only. -/
theorem step_of_posting (l : Ledger) (stamp : Stamp) (posts : op.posting? = some (key, p)) :
    ∃ wrap : Receipt → Answer, (∀ r, (wrap r).receipt? = some r) ∧
      step stamp l op =
        match p.kind.refusal? with
        | some cause => ⟨.error (.failed (.invalidArgument cause)), l, [], []⟩
        | none => .ofPost wrap p ((post stamp key p).run (.of l)) := by
  cases op with
  | credit key r =>
    cases posts
    refine ⟨.receipt, fun _ => rfl, ?_⟩
    simp only [step, LedgerM.outcome, Op.action, credit, EStateM.run_bind, PostingKind.refusal?,
      Posting.ofCredit]
    cases (post stamp key _).run (.of l) <;> simp [Outcome.ofPost, news]
  | debit key r =>
    cases posts
    refine ⟨.receipt, fun _ => rfl, ?_⟩
    simp only [step, LedgerM.outcome, Op.action, debit, EStateM.run_bind, PostingKind.refusal?,
      Posting.ofDebit]
    cases (post stamp key _).run (.of l) <;> simp [Outcome.ofPost, news]
  | adminCredit key actor r =>
    -- two more checks come first, and a fresh receipt is reported
    cases posts
    refine ⟨.adminReceipt, fun _ => rfl, ?_⟩
    have kind : (Posting.ofAdminCredit actor r).kind = .adminCredit actor r.reason := rfl
    simp only [step, LedgerM.outcome, Op.action, adminCredit, EStateM.run_bind,
      PostingKind.refusal?, kind, run_failIf]
    by_cases user : Text.isBlank actor.userId
    · simp [user, Desk.of]
    by_cases reason : Text.isBlank r.reason
    · simp [user, reason, Desk.of]
    cases posted : (post stamp key (.ofAdminCredit actor r)).run (.of l) with
    | error halt d => simp [user, reason, posted, Outcome.ofPost]
    | ok receipt d =>
      simp [user, reason, posted, Outcome.ofPost, run_reportFresh, news, kind]
      cases receipt.replayed <;> rfl
  | _ => cases posts

theorem news_of_write {e : Entry} {b : Balance} :
    news p ⟨e, b, p.action? stamp key, false⟩ = (p.action? stamp key).toList := by
  cases kind : p.kind <;> simp [news, Posting.action?, kind]

/-- The first armed point of a posting is the one that its write meets first. -/
theorem find?_points (p : Posting) (stamp : Stamp) (key : WalletKey) (armed : FailPoint → Bool) :
    p.points.find? armed =
      if armed .insertEntry then some .insertEntry
      else if armed .applyDelta then some .applyDelta
      else if (p.action? stamp key).isSome ∧ armed .insertAdminAction then some .insertAdminAction
      else if armed .commit then some .commit
      else none := by
  cases kind : p.kind <;> by_cases entry : armed .insertEntry <;>
    by_cases delta : armed .applyDelta <;> by_cases action : armed .insertAdminAction <;>
    by_cases commit : armed .commit <;>
    simp [Posting.points, Posting.action?, List.find?, kind, entry, delta, action, commit]

theorem posted_ofPost_write {wrap : Receipt → Answer} (receipt : ∀ r, (wrap r).receipt? = some r)
    {book : Book} (opens : Opens l key p book) (currency : book.wallet.currency = p.currency)
    (unused : Entry.find? book.entries p.idempotencyKey = none) :
    Posted l stamp key p
      (.ofPost wrap p ((write stamp key p (.opened key book)).run (.of l))) := by
  rw [run_write unused]
  cases lacks : shortfall? p book.balance with
  | some e => exact .failed (.short opens currency unused lacks) rfl rfl rfl
  | none =>
    have writes : Writes l key p book := ⟨opens, currency, unused, lacks⟩
    -- the points are met in the order of the list, with the movement between the second and third
    have first := find?_points p stamp key l.armed
    by_cases entryArmed : l.armed .insertEntry
    · simp only [entryArmed, if_true] at first
      simp only [Desk.of, entryArmed, if_true]
      exact .tripped writes first rfl rfl rfl
    by_cases deltaArmed : l.armed .applyDelta
    · simp only [entryArmed, deltaArmed, if_true] at first
      simp only [Desk.of, entryArmed, deltaArmed, if_true]
      exact .tripped writes first rfl rfl rfl
    simp only [entryArmed, deltaArmed] at first
    cases moved : Balance.moved? book.wallet book.balance p.currency p.signed stamp.now with
    | none =>
      simp only [Desk.of, entryArmed, deltaArmed]
      exact .failed (.overflow writes (by simpa using entryArmed) (by simpa using deltaArmed) moved)
        rfl rfl rfl
    | some b =>
      by_cases actionArmed : (p.action? stamp key).isSome ∧ l.armed .insertAdminAction
      · simp only [actionArmed, if_true, and_self] at first
        simp only [Desk.of, entryArmed, deltaArmed, actionArmed, and_self, if_true]
        exact .tripped writes first rfl rfl rfl
      by_cases commitArmed : l.armed .commit
      · simp only [actionArmed, commitArmed, if_true] at first
        simp only [Desk.of, entryArmed, deltaArmed, actionArmed, commitArmed, if_true]
        exact .tripped writes first rfl rfl rfl
      simp only [actionArmed, commitArmed] at first
      simp only [Desk.of, entryArmed, deltaArmed, actionArmed, commitArmed]
      refine .written writes first moved ?_ rfl ?_
      · simp [Outcome.receipt, Outcome.ofPost, Except.map, receipt]
      · simp [Outcome.ofPost, news_of_write]

theorem posted_ofPost {wrap : Receipt → Answer} (receipt : ∀ r, (wrap r).receipt? = some r)
    (kind : p.kind.refusal? = none) :
    Posted l stamp key p (.ofPost wrap p ((post stamp key p).run (.of l))) := by
  have objection : p.objection? key = key.refusal?.or p.refusal? := by
    simp [Posting.objection?, kind]
  rw [run_post]
  cases found : key.refusal?.or p.refusal? with
  | some cause => exact .failed (.objection (objection.trans found)) rfl rfl rfl
  | none =>
    have checked := objection.trans found
    simp only [Desk.of]
    cases stored : l.books key with
    | none => exact .failed (.unknown checked stored) rfl rfl rfl
    | some book =>
      by_cases held : l.isHeld key
      · simp only [held, if_true]
        exact .waited checked stored held rfl rfl rfl
      have opens : Opens l key p book := ⟨checked, stored, by simpa using held⟩
      by_cases currency : book.wallet.currency = p.currency
      · simp only [held, currency, ne_eq, not_true_eq_false, if_false]
        cases used : Entry.find? book.entries p.idempotencyKey with
        | none => exact posted_ofPost_write receipt opens currency used
        | some stored =>
          have balance : (Transaction.opened key book).balance = book.balance := by
            simp [Transaction.opened, Transaction.balance]
          -- a replay looks at no fail point and at no amount
          simp only [run_replay, balance]
          cases projected : book.balance with
          | none => exact .failed (.unbalanced opens currency used projected) rfl rfl rfl
          | some b =>
            refine .replayed opens currency used projected ?_ rfl ?_
            · simp [Outcome.receipt, Outcome.ofPost, Except.map, receipt]
            · cases kind : p.kind <;> simp [Outcome.ofPost, news, kind]
      · simp only [held, currency, ne_eq, not_false_eq_true, if_true]
        exact .failed (.foreign opens currency) rfl rfl rfl

/-- An operation that posts comes to one of the five ends. -/
theorem posted_step (l : Ledger) (stamp : Stamp) (posts : op.posting? = some (key, p)) :
    Posted l stamp key p (step stamp l op) := by
  obtain ⟨wrap, receipt, stepped⟩ := step_of_posting l stamp posts
  rw [stepped]
  -- what is wrong with the kind is found before the posting starts
  cases kind : p.kind.refusal? with
  | some cause =>
    have found : p.objection? key = some cause := by simp [Posting.objection?, kind]
    exact .failed (.objection found) rfl rfl rfl
  | none => exact posted_ofPost receipt kind

/-- A receipt that is not a replay is that of a write. -/
theorem written_of_receipt {r : Receipt} (posts : op.posting? = some (key, p))
    (answered : (step stamp l op).receipt = .ok (some r)) (fresh : r.replayed = false) :
    ∃ book b, Writes l key p book ∧
      Balance.moved? book.wallet book.balance p.currency p.signed stamp.now = some b ∧
      r = ⟨p.entry stamp key, b, p.action? stamp key, false⟩ ∧
      (step stamp l op).ledger =
        l.withBook key (book.recorded (p.entry stamp key) b (p.action? stamp key)) := by
  cases posted_step l stamp posts with
  | failed _ answer => cases answer.symm.trans answered
  | waited _ _ _ answer => cases answer.symm.trans answered
  | tripped _ _ answer => cases answer.symm.trans answered
  | replayed _ _ _ _ answer =>
    cases answer.symm.trans answered
    cases fresh
  | written writes _ moved answer ledger =>
    cases answer.symm.trans answered
    exact ⟨_, _, writes, moved, rfl, ledger⟩

/-- A receipt of a replay shows what is stored, and nothing has changed. -/
theorem stored_of_receipt {r : Receipt} (posts : op.posting? = some (key, p))
    (answered : (step stamp l op).receipt = .ok (some r)) (replayed : r.replayed = true) :
    ∃ book, l.books key = some book ∧
      Entry.find? book.entries p.idempotencyKey = some r.entry ∧ book.balance = some r.balance ∧
      (step stamp l op).ledger = l := by
  cases posted_step l stamp posts with
  | failed _ answer => cases answer.symm.trans answered
  | waited _ _ _ answer => cases answer.symm.trans answered
  | tripped _ _ answer => cases answer.symm.trans answered
  | replayed opens _ used balance answer ledger =>
    cases answer.symm.trans answered
    exact ⟨_, opens.stored, used, balance, ledger⟩
  | written _ _ _ answer =>
    cases answer.symm.trans answered
    cases replayed

end

end Ledger

end CallExchange
