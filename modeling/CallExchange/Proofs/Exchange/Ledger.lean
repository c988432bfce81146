import CallExchange.Exchange.Step
import CallExchange.Proofs.Ledger.Service

/-!
# Operations of the ledger as steps of an exchange

In an exchange the reports of an operation of the ledger go on to the audit trail. An operation of
the service that fails reports nothing and leaves no trace in any book; all that it may use up is
the fail point that made it fail, and that is the first armed one on its way.

## Main definitions

* `Op.points` — the fail points on the way of an operation

## Main results

* `failed_step` — a failed operation of the service leaves the ledger as it was, up to a fail point
* `kept_of_failed` — in an exchange, it leaves the audit trail as it was, too
-/

namespace CallExchange

namespace Ledger

variable {l : Ledger} {stamp : Stamp} {op : Op} {key : WalletKey} {p : Posting} {e : WalletError}

/-- The fail points on the way of an operation of the service, in order; only postings pass any. -/
def Op.points (op : Op) : List FailPoint :=
  match op.posting? with
  | some (_, p) => p.points
  | none => []

theorem points_of_posting (posts : op.posting? = some (key, p)) : op.points = p.points := by
  simp only [Op.points, posts]

theorem uninjected_shortfall {b : Option Balance} (short : shortfall? p b = some e) :
    e.injected? = none := by
  revert short
  fun_cases shortfall? p b <;> rintro ⟨⟩ <;> rfl

/-- The errors of a posting are those of its request, or the store's own. -/
theorem Fails.uninjected {now : Instant} (why : Fails l now key p e) : e.injected? = none := by
  cases why with
  | short _ _ _ lacks => exact uninjected_shortfall lacks
  | objection | unknown | foreign | unbalanced | overflow => rfl

/-- What an operation that has failed with an error leaves of the ledger. -/
structure Failed (l : Ledger) (op : Op) (e : WalletError) (o : Outcome) : Prop where
  books : o.ledger.books = l.books
  held : o.ledger.held = l.held
  armed : o.ledger.armed = e.disarmed l.armed
  /-- The failure was injected at the first point on the way that was armed. -/
  first : ∀ point, e.injected? = some point → op.points.find? l.armed = some point
  reports : o.reports = []

theorem failed_of_uninjected {o : Outcome} (uninjected : e.injected? = none)
    (ledger : o.ledger = l) (reports : o.reports = []) : Failed l op e o where
  books := by rw [ledger]
  held := by rw [ledger]
  armed := by rw [ledger, WalletError.disarmed_of_uninjected uninjected]
  first point injected := by
    rw [uninjected] at injected
    cases injected
  reports := reports

/-- An operation of the service that fails leaves no trace but a fail point that it has used up. -/
theorem failed_step (serves : op.serves = true)
    (answer : (step stamp l op).answer = .error (.failed e)) :
    Failed l op e (step stamp l op) := by
  have receipt := Outcome.receipt_of_error answer
  cases served_step l stamp serves with
  | unchanged _ uninjected ledger reports =>
    exact failed_of_uninjected (uninjected e answer) ledger reports
  | created _ done => cases done.symm.trans answer
  | armed _ done => cases done.symm.trans answer
  | posted posts posted =>
    cases posted with
    | failed why failure ledger reports =>
      cases failure.symm.trans receipt
      exact failed_of_uninjected why.uninjected ledger reports
    | waited _ _ _ waiting => cases waiting.symm.trans receipt
    | replayed _ _ _ _ ok => cases ok.symm.trans receipt
    | written _ _ _ ok => cases ok.symm.trans receipt
    | tripped _ armed failure ledger reports =>
      -- the only failure that leaves a trace
      cases failure.symm.trans receipt
      refine ⟨by rw [ledger]; rfl, by rw [ledger]; rfl, by rw [ledger]; rfl, ?_, reports⟩
      rintro point ⟨⟩
      rwa [points_of_posting posts]

end Ledger

namespace Exchange

variable {x : Exchange} {op : Ledger.Op}

theorem trail_of_unreported (unreported : (Ledger.step x.stamp x.ledger op).reports = []) :
    (x.step (.ledger op)).next.trail = x.trail := by
  simp only [step, stepLedger, unreported, actionEvents, List.map_nil, tellAll]

/-- An exchange with a ledger and with room for audit events; it has counted a number of
operations. -/
def sample (l : Ledger) (operations : Nat) : Exchange where
  now := .start
  ledger := l
  shelf := []
  campaigns := []
  source := .unseeded
  trail := ⟨some .keeping, [], .idle ⟨[], []⟩⟩
  overrideSupply := none
  balanceSupply := none
  evaluates := false
  ids := ⟨Ledger.sampleId, fun n => Ledger.sampleId (n + 16), Ledger.sampleId⟩
  operations := operations

/-- An operation of the service that fails leaves every book, every lock and the audit trail as they
were. Of the armed fail points it uses up the one that made it fail, if one did, and that is the
first armed one on its way. -/
theorem kept_of_failed {e : WalletError} (serves : op.serves = true)
    (failed : (x.step (.ledger op)).answer = .ledger (.error (.failed e))) :
    (x.step (.ledger op)).next.ledger.books = x.ledger.books ∧
      (x.step (.ledger op)).next.ledger.held = x.ledger.held ∧
      (x.step (.ledger op)).next.trail = x.trail ∧
      match e.injected? with
      | none => (x.step (.ledger op)).next.ledger.armed = x.ledger.armed
      | some point =>
        op.points.find? x.ledger.armed = some point ∧
          ∀ q, (x.step (.ledger op)).next.ledger.armed q =
            if q = point then false else x.ledger.armed q := by
  have answer : (Ledger.step x.stamp x.ledger op).answer = .error (.failed e) :=
    Answer.ledger.inj failed
  have kept := Ledger.failed_step serves answer
  have armed : (x.step (.ledger op)).next.ledger.armed = e.disarmed x.ledger.armed := kept.armed
  refine ⟨kept.books, kept.held, trail_of_unreported kept.reports, ?_⟩
  cases injected : e.injected? with
  | none => exact armed.trans (WalletError.disarmed_of_uninjected injected)
  | some point =>
    refine ⟨kept.first point injected, fun q => ?_⟩
    rw [armed, WalletError.disarmed, injected]

/-- An exchange with two armed fail points. -/
def tripwired : Exchange :=
  sample (((Ledger.after .empty Ledger.sampleRun).withPoint .commit true).withPoint
    .insertAdminAction true) 9

/-- A credit by an administrator. -/
def sampleRefund : Ledger.Op :=
  .adminCredit Ledger.sampleKey ⟨"root", .superAdmin⟩ ⟨40, "USD", "goodwill", "refund", none⟩

theorem kept_of_interrupted_refund :
    (tripwired.step (.ledger sampleRefund)).answer =
        .ledger (.error (.failed (.persistence (.injected .insertAdminAction)))) ∧
      (tripwired.step (.ledger sampleRefund)).next.ledger.books = tripwired.ledger.books ∧
      (tripwired.step (.ledger sampleRefund)).next.ledger.held = tripwired.ledger.held ∧
      (tripwired.step (.ledger sampleRefund)).next.trail = tripwired.trail ∧
      ∀ q, (tripwired.step (.ledger sampleRefund)).next.ledger.armed q = decide (q = .commit) := by
  have failed : (tripwired.step (.ledger sampleRefund)).answer =
      .ledger (.error (.failed (.persistence (.injected .insertAdminAction)))) := rfl
  obtain ⟨books, held, trail, -, left⟩ := kept_of_failed rfl failed
  refine ⟨failed, books, held, trail, fun q => (left q).trans ?_⟩
  cases q <;> rfl

end Exchange

end CallExchange
