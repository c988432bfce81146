import CallExchange.Proofs.Exchange.Replay
import CallExchange.Proofs.Exchange.Requests

/-!
# Making a request again until it succeeds

A posting that is in order can only fail at an armed fail point, and the failure uses the point up
and leaves nothing else behind. So whoever makes the same request again and again fails once for
each armed point on its way, in the order in which the request passes them, then posts, and from
then on is answered with what has been posted.

## Main definitions

* `Ledger.disarm` — a ledger with some fail points used up
* `Ledger.Ready` — a posting that only an armed fail point can make fail
* `Exchange.attempts` — a request made again and again

## Main results

* `Ready.tripped`, `Ready.written` — the two ends of a posting that is ready
* `attempts_of_used` — a request that has been posted is replayed at every attempt
* `converges_of_retries` — as many failures as there are armed points on the way, and one posting
-/

namespace CallExchange

open Text

/-! ### Fail points that are used up -/

namespace Ledger

variable {l : Ledger} {stamp : Stamp} {op : Op} {key : WalletKey} {p : Posting} {book : Book}
  {point : FailPoint}

/-- The ledger with some fail points used up. -/
def disarm (l : Ledger) (points : List FailPoint) : Ledger :=
  { l with armed := fun q => l.armed q && decide (q ∉ points) }

@[simp] theorem disarm_nil : l.disarm [] = l := by simp [disarm]

/-- A point that is used up first, and others after it. -/
theorem disarm_withPoint {points : List FailPoint} :
    (l.withPoint point false).disarm points = l.disarm (point :: points) := by
  have armed (q : FailPoint) :
      ((if q = point then false else l.armed q) && decide (q ∉ points)) =
        (l.armed q && decide (q ∉ point :: points)) := by
    by_cases same : q = point <;> simp [same]
  simp only [disarm, withPoint, armed]

/-- The armed fail points that a posting passes, in order. -/
def armedPoints (l : Ledger) (p : Posting) : List FailPoint := p.points.filter l.armed

theorem nodup_points (p : Posting) : p.points.Nodup := by
  cases kind : p.kind <;> simp [Posting.points, kind]

/-- The first armed point on the way is the one that is met. -/
theorem find?_points_eq_head? : p.points.find? l.armed = (l.armedPoints p).head? :=
  List.head?_filter.symm

/-- Using up the first armed point on the way leaves the others. -/
theorem armedPoints_withPoint {rest : List FailPoint} (armed : l.armedPoints p = point :: rest) :
    (l.withPoint point false).armedPoints p = rest := by
  have distinct : (point :: rest).Nodup := by
    rw [← armed]
    exact (nodup_points p).filter _
  have others : ∀ q ∈ rest, q ≠ point := fun q mem same =>
    (List.nodup_cons.mp distinct).1 (same ▸ mem)
  have left : (l.withPoint point false).armedPoints p =
      (l.armedPoints p).filter fun q => decide (q ≠ point) := by
    simp only [armedPoints, withPoint, List.filter_filter]
    refine List.filter_congr fun q _ => ?_
    by_cases same : q = point <;> simp [same]
  rw [left, armed, List.filter_cons_of_neg (by simp)]
  exact List.filter_eq_self.mpr fun q mem => by simpa using others q mem

/-! ### Postings that are ready -/

/-- A posting with a new key, with funds, and with room for the balance after it. -/
structure Ready (l : Ledger) (key : WalletKey) (p : Posting) (book : Book) : Prop
    extends Writes l key p book where
  room : ∀ now, ∃ b, Balance.moved? book.wallet book.balance p.currency p.signed now = some b

namespace Ready

theorem withPoint (ready : Ready l key p book) {on : Bool} :
    Ready (l.withPoint point on) key p book where
  checked := ready.checked
  stored := ready.stored
  free := ready.free
  currency := ready.currency
  unused := ready.unused
  funded := ready.funded
  room := ready.room

/-- Nothing but a fail point makes a posting fail that is ready. -/
theorem not_fails (ready : Ready l key p book) {now : Instant} {e : WalletError} :
    ¬ Fails l now key p e := by
  intro why
  cases why with
  | objection found => cases ready.checked.symm.trans found
  | unknown _ missing => cases ready.stored.symm.trans missing
  | foreign opens differs =>
    cases ready.stored.symm.trans opens.stored
    exact differs ready.currency
  | unbalanced opens _ used =>
    cases ready.stored.symm.trans opens.stored
    cases ready.unused.symm.trans used
  | short opens _ _ lacks =>
    cases ready.stored.symm.trans opens.stored
    cases ready.funded.symm.trans lacks
  | overflow writes _ _ exceeds =>
    cases ready.stored.symm.trans writes.stored
    obtain ⟨b, moved⟩ := ready.room now
    cases moved.symm.trans exceeds

/-- With an armed point on its way, a posting that is ready fails there and uses the point up. -/
theorem tripped (ready : Ready l key p book) (stamp : Stamp) (posts : op.posting? = some (key, p))
    (armed : p.points.find? l.armed = some point) :
    (step stamp l op).receipt = .error (.failed (.persistence (.injected point))) ∧
      (step stamp l op).ledger = l.withPoint point false ∧ (step stamp l op).reports = [] := by
  cases posted_step l stamp posts with
  | failed why => exact (ready.not_fails why).elim
  | waited _ _ held => cases ready.free.symm.trans held
  | tripped _ first answer ledger reports =>
    cases armed.symm.trans first
    exact ⟨answer, ledger, reports⟩
  | replayed opens _ used =>
    cases ready.stored.symm.trans opens.stored
    cases ready.unused.symm.trans used
  | written _ unarmed => cases armed.symm.trans unarmed

/-- With no armed point on its way, a posting that is ready is written. -/
theorem written (ready : Ready l key p book) (stamp : Stamp) (posts : op.posting? = some (key, p))
    (unarmed : p.points.find? l.armed = none) :
    ∃ b, (step stamp l op).receipt =
        .ok (some ⟨p.entry stamp key, b, p.action? stamp key, false⟩) ∧
      (step stamp l op).ledger =
        l.withBook key (book.recorded (p.entry stamp key) b (p.action? stamp key)) ∧
      (step stamp l op).reports = (p.action? stamp key).toList := by
  cases posted_step l stamp posts with
  | failed why => exact (ready.not_fails why).elim
  | waited _ _ held => cases ready.free.symm.trans held
  | tripped _ first => cases unarmed.symm.trans first
  | replayed opens _ used =>
    cases ready.stored.symm.trans opens.stored
    cases ready.unused.symm.trans used
  | written writes _ _ answer ledger reports =>
    cases ready.stored.symm.trans writes.stored
    exact ⟨_, answer, ledger, reports⟩

end Ready

end Ledger

/-! ### Requests that a wallet can bear -/

theorem Minor.add?_of_le {a b : Minor} (low : Int64.minValue.toInt ≤ a.toInt + b.toInt)
    (high : a.toInt + b.toInt ≤ Int64.maxValue.toInt) : ∃ c, Minor.add? a b = some c :=
  ⟨_, if_pos ⟨low, high⟩⟩

/-- The balance of a book; nothing stands for zero. -/
def Book.funds (book : Book) : Int := book.balance.elim 0 fun b => b.amount.toInt

/-- A wallet with a balance can bear a posting: a debit is not above the balance, and a credit does
not lift it out of bounds. -/
def Posting.Bearable (p : Posting) (funds : Int) : Prop :=
  match p.kind with
  | .debit => p.amount.toInt ≤ funds
  | .credit | .adminCredit .. => funds + p.amount.toInt ≤ Int64.maxValue.toInt

namespace Book.Sound

variable {book : Book} {key : WalletKey} {p : Posting}

/-- A debit that is not above the balance of a sound book has funds. -/
theorem shortfall_eq_none (sound : book.Sound key) (checked : p.objection? key = none)
    (currency : book.wallet.currency = p.currency) (bearable : p.Bearable book.funds) :
    Ledger.shortfall? p book.balance = none := by
  have positive := Posting.amount_pos_of_checked checked
  cases kind : p.kind with
  | credit | adminCredit => simp [Ledger.shortfall?, kind]
  | debit =>
    simp only [Posting.Bearable, kind, Book.funds] at bearable
    cases projected : book.balance with
    | none =>
      -- nothing has been posted, and the amount is positive
      simp only [projected, Option.elim_none] at bearable
      omega
    | some b =>
      simp only [projected, Option.elim_some] at bearable
      have same : b.currency = p.currency := (sound.balance b projected).currency.trans currency
      have enough : ¬ b.amount < p.amount := by
        rw [Int64.lt_iff_toInt_lt]
        omega
      simp [Ledger.shortfall?, kind, same, enough]

/-- The balance after a bearable posting is within bounds. -/
theorem moved_isSome (sound : book.Sound key) (checked : p.objection? key = none)
    (bearable : p.Bearable book.funds) (now : Instant) :
    ∃ b, Balance.moved? book.wallet book.balance p.currency p.signed now = some b := by
  cases projected : book.balance with
  | none => exact ⟨_, rfl⟩
  | some b =>
    have positive := Posting.amount_pos_of_checked checked
    have exact := Posting.toInt_signed checked
    have start := (sound.bounded book.entries List.prefix_rfl).1
    have sum := sound.exact b projected
    have high := b.amount.toInt_le
    have fits : Int64.minValue.toInt ≤ b.amount.toInt + p.signed.toInt ∧
        b.amount.toInt + p.signed.toInt ≤ Int64.maxValue.toInt := by
      rw [exact, Int64.toInt_minValue]
      rw [Book.funds, projected, Option.elim_some] at bearable
      cases kind : p.kind <;> simp only [Posting.Bearable, kind] at bearable <;>
        simp only [Posting.movement, kind] <;> constructor <;> omega
    obtain ⟨c, added⟩ := Minor.add?_of_le fits.1 fits.2
    refine ⟨{ b with amount := c, updatedAt := now }, ?_⟩
    simp only [Balance.moved?, added, Option.map_some]

/-- A request that is in order and bearable is ready, if its wallet is free. -/
theorem ready {l : Ledger} (sound : book.Sound key) (opens : Ledger.Opens l key p book)
    (currency : book.wallet.currency = p.currency)
    (unused : ∀ e ∈ book.entries, e.idempotencyKey ≠ p.idempotencyKey)
    (bearable : p.Bearable book.funds) : Ledger.Ready l key p book where
  toOpens := opens
  currency := currency
  unused := List.find?_eq_none.mpr fun e mem => by simpa using unused e mem
  funded := sound.shortfall_eq_none opens.checked currency bearable
  room := sound.moved_isSome opens.checked bearable

end Book.Sound

namespace Ledger

theorem Outcome.answer_of_error {o : Outcome} {h : Halt WalletError}
    (receipt : o.receipt = .error h) : o.answer = .error h := by
  rw [Outcome.receipt] at receipt
  cases answer : o.answer with
  | error halt =>
    rw [answer] at receipt
    exact congrArg _ (Except.error.inj receipt)
  | ok a =>
    rw [answer] at receipt
    cases receipt

end Ledger

namespace Exchange

variable {x : Exchange} {op : Ledger.Op} {key : WalletKey} {p : Posting} {book : Book}

/-! ### Attempts -/

/-- The results of making a request again and again, with nothing in between but that time passes:
each attempt is made at a moment of its own. -/
def attempts (x : Exchange) (op : Ledger.Op) (moments : List Instant) : List Result :=
  (x.serve (moments.map fun now => (now, op))).1

theorem length_attempts {moments : List Instant} :
    (x.attempts op moments).length = moments.length := by
  rw [attempts, length_serve, List.length_map]

/-- The audit trail after an operation that has committed an action, or none. -/
def told (t : AuditTrail) (a : Option AdminAction) : AuditTrail :=
  (tellAll t (actionEvents a.toList)).2

/-- What comes of a request that fails at a point: a retryable failure, and what is left behind. -/
structure Tripped (r : Result) (point : FailPoint) (l : Ledger) (t : AuditTrail) : Prop where
  answer : ∃ e, r.answer = .ledger (.error (.failed e)) ∧ e = .persistence (.injected point) ∧
    e.isRetryable = true
  ledger : r.next.ledger = l
  trail : r.next.trail = t

/-- What comes of a request that is granted: a receipt for an entry, replayed or not, and what is
left behind. -/
structure Granted (r : Result) (replayed : Bool) (e : Entry) (b : Balance) (l : Ledger)
    (t : AuditTrail) : Prop where
  answer : ∃ answer receipt, r.answer = .ledger (.ok answer) ∧ answer.receipt? = some receipt ∧
    receipt.replayed = replayed ∧ receipt.entry = e ∧ receipt.balance = b
  ledger : r.next.ledger = l
  trail : r.next.trail = t

theorem tripped_of_ready (posts : op.posting? = some (key, p))
    (ready : Ledger.Ready x.ledger key p book) {point : FailPoint}
    (armed : p.points.find? x.ledger.armed = some point) (now : Instant) :
    Tripped (x.request (now, op)) point (x.ledger.withPoint point false) x.trail := by
  obtain ⟨receipt, ledger, reports⟩ := ready.tripped (x.later now).stamp posts armed
  have answered := Ledger.Outcome.answer_of_error receipt
  exact ⟨⟨_, congrArg Answer.ledger answered, rfl, rfl⟩, ledger,
    trail_of_unreported (x := x.later now) reports⟩

theorem granted_of_ready (posts : op.posting? = some (key, p))
    (ready : Ledger.Ready x.ledger key p book)
    (unarmed : p.points.find? x.ledger.armed = none) (now : Instant) :
    ∃ stamp b, Granted (x.request (now, op)) false (p.entry stamp key) b
      (x.ledger.withBook key (book.recorded (p.entry stamp key) b (p.action? stamp key)))
      (told x.trail (p.action? stamp key)) := by
  let stamp := (x.later now).stamp
  obtain ⟨b, receipt, ledger, reports⟩ := ready.written stamp posts unarmed
  obtain ⟨answer, answered, shown⟩ := Ledger.Outcome.answer_of_receipt receipt
  have trail : (x.request (now, op)).next.trail = told x.trail (p.action? stamp key) := by
    have told_reports : (x.request (now, op)).next.trail =
        (tellAll x.trail (actionEvents (Ledger.step stamp x.ledger op).reports)).2 := rfl
    rw [told_reports, reports, told]
  exact ⟨stamp, b, ⟨answer, _, congrArg Answer.ledger answered, shown, rfl, rfl, rfl⟩, ledger,
    trail⟩

theorem granted_of_used {e : Entry} {b : Balance} (posts : op.posting? = some (key, p))
    (opens : Ledger.Opens x.ledger key p book) (currency : book.wallet.currency = p.currency)
    (used : Entry.find? book.entries p.idempotencyKey = some e) (balance : book.balance = some b)
    (now : Instant) : Granted (x.request (now, op)) true e b x.ledger x.trail := by
  obtain ⟨receipt, ledger, reports⟩ :=
    Ledger.replayed_of_used (x.later now).stamp posts opens currency used balance
  obtain ⟨answer, answered, shown⟩ := Ledger.Outcome.answer_of_receipt receipt
  exact ⟨⟨answer, _, congrArg Answer.ledger answered, shown, rfl, rfl, rfl⟩, ledger,
    trail_of_unreported (x := x.later now) reports⟩

/-- Once an entry has been posted under a key, every attempt is answered with it and changes
nothing. -/
theorem attempts_of_used {e : Entry} {b : Balance} {moments : List Instant}
    (posts : op.posting? = some (key, p)) (opens : Ledger.Opens x.ledger key p book)
    (currency : book.wallet.currency = p.currency)
    (used : Entry.find? book.entries p.idempotencyKey = some e) (balance : book.balance = some b)
    {i : Nat} {r : Result} (attempt : (x.attempts op moments)[i]? = some r) :
    Granted r true e b x.ledger x.trail := by
  induction moments generalizing x i with
  | nil => cases attempt
  | cons now moments ih =>
    have granted := granted_of_used posts opens currency used balance now
    cases i with
    | zero =>
      cases attempt
      exact granted
    | succ i =>
      have rest := ih (granted.ledger.symm ▸ opens) attempt
      rwa [granted.ledger, granted.trail] at rest

/-- The attempts of a request that is ready: one failure for each armed point on its way, then the
posting, then replays. -/
theorem attempts_of_ready (moments : List Instant) (posts : op.posting? = some (key, p))
    (ready : Ledger.Ready x.ledger key p book) :
    (∀ i point r, (x.ledger.armedPoints p)[i]? = some point → (x.attempts op moments)[i]? = some r →
      Tripped r point (x.ledger.disarm ((x.ledger.armedPoints p).take (i + 1))) x.trail) ∧
    ∃ stamp b, ∀ i r, (x.ledger.armedPoints p).length ≤ i → (x.attempts op moments)[i]? = some r →
      Granted r (decide ((x.ledger.armedPoints p).length < i)) (p.entry stamp key) b
        ((x.ledger.disarm (x.ledger.armedPoints p)).withBook key
          (book.recorded (p.entry stamp key) b (p.action? stamp key)))
        (told x.trail (p.action? stamp key)) := by
  -- along the attempts, each of which either takes the first armed point away or posts
  induction moments generalizing x with
  | nil =>
    refine ⟨fun _ _ _ _ attempt => ?_, x.stamp, default, fun _ _ _ attempt => ?_⟩ <;> cases attempt
  | cons now moments ih =>
    have first : p.points.find? x.ledger.armed = (x.ledger.armedPoints p).head? :=
      Ledger.find?_points_eq_head?
    cases points : x.ledger.armedPoints p with
    | nil =>
      rw [points] at first
      obtain ⟨stamp, b, granted⟩ := granted_of_ready posts ready first now
      refine ⟨fun _ _ _ armed => (by cases armed), stamp, b, fun i r _ attempt => ?_⟩
      rw [Ledger.disarm_nil]
      cases i with
      | zero =>
        cases attempt
        exact granted
      | succ i =>
        -- from here on the key is used
        have opens : Ledger.Opens (x.request (now, op)).next.ledger key p
            (book.recorded (p.entry stamp key) b (p.action? stamp key)) := by
          rw [granted.ledger]
          exact ⟨ready.checked, Ledger.books_withBook_self, ready.free⟩
        have unused := ready.unused
        simp only [Entry.find?] at unused
        have found : Entry.find? (book.entries ++ [p.entry stamp key]) p.idempotencyKey =
            some (p.entry stamp key) := by
          simp [Entry.find?, unused]
        have replayed := attempts_of_used posts opens ready.currency found rfl attempt
        rw [granted.ledger, granted.trail] at replayed
        simpa using replayed
    | cons point rest =>
      rw [points] at first
      have failed := tripped_of_ready posts ready first now
      have remaining : (x.request (now, op)).next.ledger.armedPoints p = rest := by
        rw [failed.ledger]
        exact Ledger.armedPoints_withPoint points
      -- the rest of the attempts starts with one point less
      obtain ⟨failures, stamp, b, granted⟩ := ih (x := (x.request (now, op)).next)
        (failed.ledger.symm ▸ ready.withPoint)
      rw [remaining, failed.ledger, failed.trail] at failures granted
      refine ⟨fun i q r armed attempt => ?_, stamp, b, fun i r late attempt => ?_⟩
      · rw [List.take_succ_cons, ← Ledger.disarm_withPoint]
        cases i with
        | zero =>
          cases armed
          cases attempt
          rw [List.take_zero, Ledger.disarm_nil]
          exact failed
        | succ i => exact failures i q r armed attempt
      · rw [← Ledger.disarm_withPoint]
        cases i with
        | zero => simp at late
        | succ i => simpa using granted i r (Nat.le_of_succ_le_succ late) attempt

/-- A request that is in order, that its wallet can bear and whose key is new fails once for each
armed point on its way, in order, and each failure may be retried and only uses its point up. The
next attempt posts, all later ones replay the entry, and only an administrator's credit is reported
to the audit trail, once. -/
theorem converges_of_retries {script : List (Stamp × Ledger.Op)} {armed : FailPoint → Bool}
    (served : ∀ s ∈ script, s.2.serves = true)
    (ledger : x.ledger = { (Ledger.run .empty script).2 with armed })
    (posts : op.posting? = some (key, p)) (checked : p.objection? key = none)
    (stored : x.ledger.books key = some book) (currency : p.currency = book.wallet.currency)
    (unused : ∀ e ∈ book.entries, e.idempotencyKey ≠ p.idempotencyKey)
    (bearable : p.Bearable book.funds) (moments : List Instant) :
    (x.attempts op moments).length = moments.length ∧
    (∀ i point r, (x.ledger.armedPoints p)[i]? = some point → (x.attempts op moments)[i]? = some r →
      Tripped r point (x.ledger.disarm ((x.ledger.armedPoints p).take (i + 1))) x.trail) ∧
    ∃ stamp b,
      ((p.action? stamp key).isSome ↔ ∃ actor request, op = .adminCredit key actor request) ∧
      ∀ i r, (x.ledger.armedPoints p).length ≤ i → (x.attempts op moments)[i]? = some r →
        Granted r (decide ((x.ledger.armedPoints p).length < i)) (p.entry stamp key) b
          ((x.ledger.disarm (x.ledger.armedPoints p)).withBook key
            (book.recorded (p.entry stamp key) b (p.action? stamp key)))
          (told x.trail (p.action? stamp key)) := by
  -- fail points have no influence on the books nor on what is held
  have committed : (Ledger.after .empty script).books key = some book := by
    rw [ledger] at stored
    exact stored
  have free : x.ledger.isHeld key = false := by
    rw [ledger]
    exact Ledger.free_of_closed (Ledger.held_after served)
  have sound : book.Sound key := Ledger.sound_after served key book committed
  have ready : Ledger.Ready x.ledger key p book :=
    sound.ready ⟨checked, stored, free⟩ currency.symm unused bearable
  obtain ⟨failures, stamp, b, granted⟩ := attempts_of_ready moments posts ready
  refine ⟨length_attempts, failures, stamp, b, ?_, granted⟩
  cases op <;> cases posts <;>
    simp [Posting.action?, Posting.ofCredit, Posting.ofDebit, Posting.ofAdminCredit]

/-- Two armed points are on the way of the refund: the third attempt posts it, the fourth replays
it, and one event has been recorded. -/
theorem converges_of_tripwired :
    ∃ r₀ r₁ r₂ r₃ e b l t,
      tripwired.attempts sampleRefund [.start, .start, .start, .start] = [r₀, r₁, r₂, r₃] ∧
      Tripped r₀ .insertAdminAction (tripwired.ledger.disarm [.insertAdminAction])
        tripwired.trail ∧
      Tripped r₁ .commit (tripwired.ledger.disarm [.insertAdminAction, .commit]) tripwired.trail ∧
      Granted r₂ false e b l t ∧ Granted r₃ true e b l t ∧ e.amount = 40 ∧ t.kept.length = 1 := by
  have served : ∀ s ∈ Ledger.sampleRun, s.2.serves = true := by decide
  have ledger : tripwired.ledger =
      { (Ledger.run .empty Ledger.sampleRun).2 with armed := tripwired.ledger.armed } := rfl
  have posts : sampleRefund.posting? = some (Ledger.sampleKey, _) := rfl
  obtain ⟨-, failures, stamp, b, -, granted⟩ := converges_of_retries served ledger posts rfl rfl rfl
    (by decide) (show (_ + _ : Int) ≤ _ by decide) [.start, .start, .start, .start]
  have third := granted 2 _ (by decide) rfl
  have fourth := granted 3 _ (by decide) rfl
  exact ⟨_, _, _, _, _, b, _, _, rfl, failures 0 _ _ rfl rfl, failures 1 _ _ rfl rfl, third, fourth,
    rfl, rfl⟩

end Exchange

end CallExchange
