import CallExchange.Proofs.Exchange.Ledger
import CallExchange.Proofs.Ledger.Mirror
import CallExchange.Proofs.Routing.Ends
import Mathlib.Logic.Equiv.Basic

/-!
# Auditing has no influence

Whatever takes the audit events of an exchange, nobody who makes requests can tell: a sink may keep
or refuse what it likes, a worker may run at any time or never, and the repository behind it may
fail. The answers, the books, the overrides, the armed fail points and the random source are those of
the exchange that has no sink at all. Only the lines of the log that are about auditing differ.

The argument erases the audit trail. One step of an exchange commutes with erasing it, hence so does
every course of requests, mixed with whatever happens to the trail; and two exchanges with nothing
but other identifiers differ in nothing else later.

## Main definitions

* `Exchange.Move` — a step of the exchange, half a turn of the audit worker, or another audit trail
* `Exchange.course` — the replies to the requests among some moves, the log and the exchange at the
  end
* `Exchange.bare`, `Course.bare` — without the audit trail and the lines of the log about it
* `Exchange.rename`, `Course.rename` — with renamed identifiers

## Main results

* `bare_course` — a course is that of its requests to an exchange without a sink
* `rename_course` — under other identifiers the same requests have the same course
* `same_course` — what happens to the audit trail does not matter
-/

namespace CallExchange

/-- The event is about auditing. -/
def LogEvent.audits : LogEvent → Bool
  | .actionNotRecorded .. | .dispatchFailed _ | .recordPersisted .. | .recordLost ..
  | .queueClosed => true
  | .posted .. | .keyReused .. | .replayed .. | .drifted .. | .routed .. => false

@[simp] theorem LogEvent.audits_rename {ρ : Uuid → Uuid} (e : LogEvent) :
    (e.rename ρ).audits = e.audits := by
  cases e <;> rfl

/-- The lines of the log that are not about auditing. -/
def unaudited (log : List LogEvent) : List LogEvent := log.filter fun e => !e.audits

@[simp] theorem unaudited_append (log more : List LogEvent) :
    unaudited (log ++ more) = unaudited log ++ unaudited more := List.filter_append ..

theorem unaudited_rename {ρ : Uuid → Uuid} (log : List LogEvent) :
    unaudited (log.map (·.rename ρ)) = (unaudited log).map (·.rename ρ) := by
  rw [unaudited, unaudited, List.filter_map]
  congr 2
  funext e
  simp

theorem unaudited_eq_nil {log : List LogEvent} (audits : ∀ e ∈ log, e.audits = true) :
    unaudited log = [] :=
  List.filter_eq_nil_iff.mpr fun e mem => by simp [audits e mem]

/-- The ledger under other identifiers. -/
def Ledger.rename (ρ : Uuid → Uuid) (l : Ledger) : Ledger := l.excerpt ρ fun _ => true

namespace Ledger

variable {ρ : Uuid → Uuid} {l : Ledger} {stamp : Stamp} {op : Op}

/-- An operation of the service has the same outcome under other identifiers. -/
theorem step_rename (injective : Function.Injective ρ) (serves : op.serves = true) :
    step (stamp.rename ρ) (l.rename ρ) op = (step stamp l op).excerpt ρ fun _ => true := by
  have named {key : WalletKey} (named : op.named? = some key) :
      step (stamp.rename ρ) (l.rename ρ) (op.rename ρ) = (step stamp l op).excerpt ρ fun _ => true :=
    step_excerpt injective named rfl
  cases op with
  | failNext point => rfl
  | begin | inside | commit | rollback => cases serves
  | _ => exact named rfl

/-- A balance has no identifiers. -/
theorem read_rename : (l.rename ρ).read = l.read := by
  funext key
  have ends : Ends ρ (fun _ => true) Eq ((balance key).run (.of l))
      ((balance key).run (.of (l.rename ρ))) := mirrors_balance rfl (.of l)
  unfold read
  generalize (balance key).run (.of l) = result at ends ⊢
  generalize (balance key).run (.of (l.rename ρ)) = result' at ends ⊢
  cases ends with
  | ok values => rw [values]
  | error => rfl

end Ledger

/-! ### What is logged about auditing -/

theorem AuditLine.audits_append {ids : Nat → Uuid} {now : Instant} {l : AuditLine} :
    ∀ e ∈ (l.append ids now).1, e.audits = true := by
  unfold append
  cases l.worker.inHand with
  | none => simp
  | some event =>
    intro e mem
    rw [List.mem_singleton.mp mem]
    split <;> rfl

theorem AuditLine.audits_turns {ids : Nat → Uuid} {now : Instant} {n : Nat} {l : AuditLine} :
    ∀ e ∈ (turns ids now n l).1, e.audits = true := by
  induction n generalizing l with
  | zero => simp [turns]
  | succ n ih =>
    intro e mem
    rcases List.mem_append.mp mem with first | later
    · exact audits_append e first
    · exact ih e later

namespace AuditTrail

/-- The worker behind the sink does something, if there is one. -/
def onLine (t : AuditTrail) (work : AuditLine → List LogEvent × AuditLine) :
    List LogEvent × AuditTrail :=
  match t.sink with
  | some (.queue q) =>
    let (lines, line) := work ⟨q, t.worker⟩
    (lines, { t with sink := some (.queue line.queue), worker := line.worker })
  | _ => ([], t)

theorem audits_onLine {t : AuditTrail} {work : AuditLine → List LogEvent × AuditLine}
    (audits : ∀ l, ∀ e ∈ (work l).1, e.audits = true) : ∀ e ∈ (t.onLine work).1, e.audits = true := by
  unfold onLine
  split
  · exact audits _
  · simp

theorem audits_drain {t : AuditTrail} {ids : Nat → Uuid} {now : Instant} :
    ∀ e ∈ (t.drain ids now).1, e.audits = true := by
  unfold drain
  split
  · exact AuditLine.audits_turns
  · simp

theorem audits_close {t : AuditTrail} {ids : Nat → Uuid} {now : Instant} :
    ∀ e ∈ (t.close ids now).2.1, e.audits = true := by
  unfold close
  split
  · split
    · intro e mem
      rcases List.mem_append.mp mem with drained | last
      · exact audits_drain e drained
      · rw [List.mem_singleton.mp last]
        rfl
    · simp
  · simp

/-- Handing over an event logs its refusal or nothing. -/
theorem mem_tell {t : AuditTrail} {event : AuditEvent} {refused : AuditError → LogEvent}
    {e : LogEvent} (mem : e ∈ (t.tell event refused).1) : ∃ error, e = refused error := by
  unfold tell at mem
  split at mem
  · exact ⟨_, List.mem_singleton.mp mem⟩
  · cases mem
  · cases mem

/-- The trail that nothing is handed to. -/
def silent : AuditTrail := ⟨none, [], .idle ⟨[], []⟩⟩

end AuditTrail

namespace Exchange

variable {ρ : Uuid → Uuid} {x y : Exchange} {t : AuditTrail}

/-- What is logged while events are handed over is about auditing. -/
theorem audits_tellAll {told : List (AuditEvent × (AuditError → LogEvent))}
    (audits : ∀ p ∈ told, ∀ error, (p.2 error).audits = true) :
    ∀ e ∈ (tellAll t told).1, e.audits = true := by
  induction told generalizing t with
  | nil => simp [tellAll]
  | cons p rest ih =>
    intro e mem
    rcases List.mem_append.mp mem with first | later
    · obtain ⟨error, rfl⟩ := AuditTrail.mem_tell first
      exact audits p List.mem_cons_self error
    · exact ih (fun q mem => audits q (List.mem_cons_of_mem p mem)) e later

theorem tellAll_silent (told : List (AuditEvent × (AuditError → LogEvent))) :
    tellAll .silent told = ([], .silent) := by
  induction told with
  | nil => rfl
  | cons p rest ih =>
    simp only [tellAll]
    have told : AuditTrail.tell .silent p.1 p.2 = ([], .silent) := rfl
    rw [told, ih]
    rfl

/-! ### Moves -/

/-- The step is about the audit trail. -/
def Step.audits : Step → Bool
  | .takeEvents | .send _ | .append _ | .drain | .close | .abort | .records _ => true
  | .setNow _ | .ledger _ | .insertOverride _ | .purgeOverrides | .findOverride .. |
    .decideOverride .. | .setCampaign .. | .route _ | .routeInbound .. => false

/-- The step asks the ledger for nothing but what its service offers. -/
def Step.serves : Step → Bool
  | .ledger op => op.serves
  | _ => true

/-- What can happen while requests are made. -/
inductive Move where
  | step (s : Step)
  /-- The audit worker takes an event from its queue. -/
  | receive
  /-- The audit worker appends the record of the event that it has taken. -/
  | append
  /-- From now on there is another audit trail: none, another sink, another queue with its worker,
  another repository. So the ledger and the override stage need not have the same one. -/
  | rewire (trail : AuditTrail)

/-- The request that a move makes, if it makes one. -/
def Move.request? : Move → Option Step
  | .step s => if s.audits then none else some s
  | .receive | .append | .rewire _ => none

/-- What a move leaves behind. -/
def move (x : Exchange) : Move → Result
  | .step s => x.step s
  | .receive => ⟨.done, [], { x with trail := (x.trail.onLine fun l => ([], l.receive)).2 }⟩
  | .append =>
    let (lines, trail) := x.trail.onLine (AuditLine.append x.ids.record x.now)
    ⟨.done, lines, { x with trail }⟩
  | .rewire trail => ⟨.done, [], { x with trail }⟩

/-- What comes of some moves: what the requests among them leave behind, everything that is logged,
and the exchange at the end. -/
structure Course where
  replies : List Result
  log : List LogEvent
  final : Exchange

/-- The course of some moves. -/
def course (x : Exchange) : List Move → Course
  | [] => ⟨[], [], x⟩
  | m :: rest =>
    let r := x.move m
    let later := r.next.course rest
    ⟨(m.request?.map fun _ => r).toList ++ later.replies, r.log ++ later.log, later.final⟩

/-! ### Erasing the audit trail -/

/-- The exchange without an audit trail, and without identifiers for its records. -/
def bare (x : Exchange) : Exchange :=
  { x with trail := .silent, ids := { x.ids with record := fun _ => .nil } }

/-- A result without what is about auditing. -/
def Result.bare (r : Result) : Result := ⟨r.answer, unaudited r.log, r.next.bare⟩

/-- A course without what is about auditing. -/
def Course.bare (c : Course) : Course :=
  ⟨c.replies.map Result.bare, unaudited c.log, c.final.bare⟩

theorem unaudited_actions {as : List AdminAction} :
    unaudited (tellAll t (actionEvents as)).1 = [] := by
  refine unaudited_eq_nil (audits_tellAll ?_)
  rintro p mem error
  obtain ⟨a, -, rfl⟩ := List.mem_map.mp mem
  rfl

theorem unaudited_settle {asked : RouteTrace} : unaudited (x.settle asked).1 = [] := by
  refine unaudited_eq_nil (audits_tellAll ?_)
  rintro p mem error
  obtain ⟨e, -, rfl⟩ := List.mem_map.mp mem
  rfl

/-- Only a decision is logged besides what is about auditing. -/
theorem unaudited_finish {r : Routed Decision} :
    unaudited (x.finish r).1 =
      match r.answer with
      | .ok d => [d.logLine]
      | .error _ => [] := by
  have settled : unaudited (x.settle r.trace).1 = [] := unaudited_settle
  unfold finish
  cases r.answer with
  | error halt => exact settled
  | ok d =>
    rw [unaudited_append, settled]
    rfl

theorem next_finish {r : Routed Decision} : (x.finish r).2 = (x.settle r.trace).2 := by
  unfold finish
  cases r.answer <;> rfl

/-- A request leaves behind what it would leave behind without an audit trail. -/
theorem bare_step {s : Step} (requests : s.audits = false) :
    (x.step s).bare = (x.bare.step s).bare := by
  cases s with
  | setNow | insertOverride | purgeOverrides | findOverride | setCampaign => rfl
  | ledger op =>
    simp only [step, stepLedger, Result.bare, unaudited_append, unaudited_actions]
    rfl
  | decideOverride workspaceId campaignId call context =>
    have supply : x.bare.overrideSupply = x.overrideSupply := rfl
    simp only [step, supply]
    cases x.overrideSupply with
    | none => rfl
    | some supply =>
      simp only [stepOverride, Result.bare, unaudited_settle]
      rfl
  | route input =>
    simp only [step, Result.bare, unaudited_finish, next_finish]
    rfl
  | routeInbound router call context =>
    cases router with
    | chain resolver =>
      simp only [step, Result.bare, unaudited_finish, next_finish]
      rfl
    | rejectAll => rfl
  | takeEvents | send | append | drain | close | abort | records => cases requests

/-- What is no request changes the audit trail only, and logs nothing that is not about it. -/
theorem bare_move {m : Move} (idle : m.request? = none) :
    unaudited (x.move m).log = [] ∧ (x.move m).next.bare = x.bare := by
  cases m with
  | receive | rewire => exact ⟨rfl, rfl⟩
  | append =>
    have lines : unaudited (x.trail.onLine (AuditLine.append x.ids.record x.now)).1 = [] :=
      unaudited_eq_nil (AuditTrail.audits_onLine fun _ => AuditLine.audits_append)
    exact ⟨lines, rfl⟩
  | step s =>
    cases s with
    | takeEvents | append | abort | records => exact ⟨rfl, rfl⟩
    | send e =>
      simp only [move, step]
      cases (x.trail.offer e).1 <;> exact ⟨rfl, rfl⟩
    | drain => exact ⟨unaudited_eq_nil AuditTrail.audits_drain, rfl⟩
    | close => exact ⟨unaudited_eq_nil AuditTrail.audits_close, rfl⟩
    | setNow | ledger | insertOverride | purgeOverrides | findOverride | decideOverride
    | setCampaign | route | routeInbound => cases idle

/-- Without a sink nothing is logged about auditing, and nothing changes but the source. -/
theorem settle_bare {asked : RouteTrace} :
    x.bare.settle asked = ([], { x.bare with source := x.source.after asked.draws }) := by
  have told : tellAll x.bare.trail (overrideEvents asked) = ([], .silent) := tellAll_silent _
  simp only [settle, told]
  rfl

theorem finish_bare {r : Routed Decision} :
    x.bare.finish r =
      ((r.answer.toOption.map Decision.logLine).toList,
        { x.bare with source := x.source.after r.trace.draws }) := by
  simp only [finish, settle_bare]
  cases r.answer <;> rfl

theorem stepLedger_bare {op : Ledger.Op} :
    x.bare.stepLedger op =
      ⟨.ledger (Ledger.step x.stamp x.ledger op).answer, (Ledger.step x.stamp x.ledger op).log,
        { x.bare with
          ledger := (Ledger.step x.stamp x.ledger op).ledger
          operations := x.operations + 1 }⟩ := by
  have told : tellAll x.bare.trail (actionEvents (Ledger.step x.stamp x.ledger op).reports) =
      ([], .silent) := tellAll_silent _
  have same : Ledger.step x.bare.stamp x.bare.ledger op = Ledger.step x.stamp x.ledger op := rfl
  simp only [stepLedger, same, told, List.append_nil]
  rfl

/-- An exchange without an audit trail gets none. -/
theorem bare_next {s : Step} (requests : s.audits = false) :
    (x.bare.step s).next.bare = (x.bare.step s).next := by
  cases s with
  | setNow | insertOverride | purgeOverrides | findOverride | setCampaign => rfl
  | ledger op =>
    simp only [step, stepLedger_bare]
    rfl
  | decideOverride workspaceId campaignId call context =>
    simp only [step]
    cases x.bare.overrideSupply with
    | none => rfl
    | some supply =>
      simp only [stepOverride, settle_bare]
      rfl
  | route input =>
    simp only [step, finish_bare]
    rfl
  | routeInbound router call context =>
    cases router with
    | chain resolver =>
      simp only [step, finish_bare]
      rfl
    | rejectAll => rfl
  | takeEvents | send | append | drain | close | abort | records => cases requests

/-- The requests among some moves. -/
def requests (moves : List Move) : List Step := moves.filterMap Move.request?

theorem request_eq_some {m : Move} {s : Step} (requests : m.request? = some s) :
    m = .step s ∧ s.audits = false := by
  cases m with
  | receive | append | rewire => cases requests
  | step other =>
    cases audits : other.audits <;> simp [Move.request?, audits] at requests
    exact ⟨congrArg Move.step requests, requests ▸ audits⟩

/-- The course of a request and further moves. -/
theorem course_request {s : Step} (requests : s.audits = false) (rest : List Move) :
    x.course (.step s :: rest) =
      ⟨x.step s :: ((x.step s).next.course rest).replies,
        (x.step s).log ++ ((x.step s).next.course rest).log,
        ((x.step s).next.course rest).final⟩ := by
  simp [course, move, Move.request?, requests]

theorem requests_request {s : Step} (audits : s.audits = false) (rest : List Move) :
    requests (.step s :: rest) = s :: requests rest := by
  simp [requests, Move.request?, audits]

/-- A course is that of its requests alone, to the exchange without an audit trail. -/
theorem bare_course (moves : List Move) :
    (x.course moves).bare = (x.bare.course ((requests moves).map .step)).bare := by
  induction moves generalizing x with
  | nil => rfl
  | cons m rest ih =>
    have later := ih (x := (x.move m).next)
    cases request : m.request? with
    | none =>
      obtain ⟨lines, same⟩ := bare_move (x := x) request
      rw [same] at later
      rw [requests, List.filterMap_cons_none request, ← requests, ← later]
      simp [course, Course.bare, request, lines]
    | some s =>
      obtain ⟨rfl, isRequest⟩ := request_eq_some request
      have first : (x.step s).bare = (x.bare.step s).bare := bare_step isRequest
      have next : (x.step s).next.bare = (x.bare.step s).next :=
        (congrArg Result.next first).trans (bare_next isRequest)
      rw [move, next] at later
      rw [requests_request isRequest, List.map_cons, course_request isRequest,
        course_request isRequest]
      simp only [Course.bare, Course.mk.injEq] at later ⊢
      have lines : unaudited (x.step s).log = unaudited (x.bare.step s).log :=
        congrArg Result.log first
      refine ⟨congrArg₂ List.cons first later.1, ?_, later.2.2⟩
      rw [unaudited_append, unaudited_append, lines, later.2.1]

/-! ### Renaming identifiers -/

/-- The same exchange under other identifiers. -/
def rename (ρ : Uuid → Uuid) (x : Exchange) : Exchange :=
  { x with
    ledger := x.ledger.rename ρ
    ids := { x.ids with entry := ρ ∘ x.ids.entry, action := ρ ∘ x.ids.action } }

/-- The answer with renamed identifiers, those of audit records left aside. -/
def Answer.rename (ρ : Uuid → Uuid) : Answer → Answer
  | .ledger answer => .ledger (answer.map (Ledger.Answer.rename ρ))
  | answer => answer

/-- What a step leaves behind, under other identifiers. -/
def Result.rename (ρ : Uuid → Uuid) (r : Result) : Result :=
  ⟨r.answer.rename ρ, r.log.map (·.rename ρ), r.next.rename ρ⟩

/-- The course under other identifiers. -/
def Course.rename (ρ : Uuid → Uuid) (c : Course) : Course :=
  ⟨c.replies.map (·.rename ρ), c.log.map (·.rename ρ), c.final.rename ρ⟩

theorem stamp_rename : (x.rename ρ).stamp = x.stamp.rename ρ := rfl

theorem ledger_rename : (x.rename ρ).ledger = x.ledger.rename ρ := rfl

theorem rename_reply {answer : Except (Halt RoutingError) Decision}
    {answers : Answer} {next : Exchange} :
    (⟨answers, (answer.toOption.map Decision.logLine).toList, next⟩ : Result).rename ρ =
      ⟨answers.rename ρ, (answer.toOption.map Decision.logLine).toList, next.rename ρ⟩ := by
  cases answer <;> rfl

theorem lookup_rename {supply : OverrideSupply} : (x.rename ρ).lookup supply = x.lookup supply := by
  cases supply <;> rfl

/-- What routing sees of an exchange has no identifiers. -/
theorem surroundings_rename : (x.rename ρ).surroundings = x.surroundings := by
  have lookups : (x.rename ρ).lookup = x.lookup := funext fun _ => lookup_rename
  have readers : (x.rename ρ).reader = x.reader := by
    funext supply
    cases supply with
    | ledger => exact Ledger.read_rename
    | failing => rfl
  simp only [surroundings, lookups, readers]
  rfl

/-- Under other identifiers a request leaves behind the same. -/
theorem rename_step (injective : Function.Injective ρ) {s : Step} (requests : s.audits = false)
    (serves : s.serves = true) : (x.bare.rename ρ).step s = (x.bare.step s).rename ρ := by
  have bare : (x.rename ρ).bare = x.bare.rename ρ := rfl
  have seen : (x.rename ρ).bare.surroundings = x.bare.surroundings := by
    rw [bare, surroundings_rename]
  cases s with
  | setNow | insertOverride | purgeOverrides | findOverride | setCampaign => rfl
  | ledger op =>
    rw [← bare]
    simp only [step, stepLedger_bare]
    have outcome : Ledger.step (x.stamp.rename ρ) (x.ledger.rename ρ) op =
        (Ledger.step x.stamp x.ledger op).excerpt ρ fun _ => true :=
      Ledger.step_rename injective serves
    rw [stamp_rename, ledger_rename, outcome]
    generalize Ledger.step x.stamp x.ledger op = o
    rfl
  | decideOverride workspaceId campaignId call context =>
    have supplies : (x.bare.rename ρ).overrideSupply = x.overrideSupply := rfl
    have supplies' : x.bare.overrideSupply = x.overrideSupply := rfl
    simp only [step, supplies, supplies']
    cases x.overrideSupply with
    | none => rfl
    | some supply =>
      have found : (x.rename ρ).bare.lookup supply = x.bare.lookup supply := by
        rw [bare, lookup_rename]
      rw [← bare]
      simp only [stepOverride, settle_bare, seen, found]
      rfl
  | route input =>
    rw [← bare]
    simp only [step, seen, finish_bare, rename_reply]
    rfl
  | routeInbound router call context =>
    cases router with
    | rejectAll => rfl
    | chain resolver =>
      rw [← bare]
      simp only [step, seen, finish_bare, rename_reply]
      rfl
  | takeEvents | send | append | drain | close | abort | records => cases requests

/-- Under other identifiers the same requests have the same course. -/
theorem rename_course (injective : Function.Injective ρ) {steps : List Step}
    (requests : ∀ s ∈ steps, s.audits = false) (serve : ∀ s ∈ steps, s.serves = true) :
    (x.bare.rename ρ).course (steps.map .step) = (x.bare.course (steps.map .step)).rename ρ := by
  induction steps generalizing x with
  | nil => rfl
  | cons s rest ih =>
    have isRequest := requests s List.mem_cons_self
    have first := rename_step (x := x) injective isRequest (serve s List.mem_cons_self)
    have later := ih (x := (x.bare.step s).next)
      (fun t mem => requests t (List.mem_cons_of_mem s mem))
      fun t mem => serve t (List.mem_cons_of_mem s mem)
    rw [bare_next isRequest] at later
    have next : ((x.bare.step s).rename ρ).next = (x.bare.step s).next.rename ρ := rfl
    rw [List.map_cons, course_request isRequest, course_request isRequest, first, next, later]
    simp [Course.rename, Result.rename]

theorem Result.bare_rename (r : Result) : (r.rename ρ).bare = r.bare.rename ρ := by
  simp only [Result.bare, Result.rename, unaudited_rename]
  rfl

theorem Course.bare_rename (c : Course) : (c.rename ρ).bare = c.bare.rename ρ := by
  have replies : (c.replies.map (·.rename ρ)).map Result.bare =
      (c.replies.map Result.bare).map (·.rename ρ) := by
    rw [List.map_map, List.map_map]
    exact List.map_congr_left fun r _ => r.bare_rename
  simp only [Course.bare, Course.rename, replies, unaudited_rename]
  rfl

/-- Two exchanges that agree up to the naming of identifiers and the audit trail get the same
requests, and whatever else happens to the audit trail of either: sinks keep or refuse events, queues
fill up, workers run or rest, repositories fail. Up to the naming of identifiers, every request is
answered and logged in the same way and leaves the same exchange behind (the same books, armed fail
points and overrides, and the same state of the random source), and the log differs in nothing but
lines about auditing. -/
theorem same_course (injective : Function.Injective ρ) (alike : y.bare = x.bare.rename ρ)
    {moves moves' : List Move} (same : requests moves' = requests moves)
    (serve : ∀ s ∈ requests moves, s.serves = true) :
    (y.course moves').bare = (x.course moves).bare.rename ρ := by
  have audits : ∀ s ∈ requests moves, s.audits = false := by
    intro s mem
    obtain ⟨m, -, request⟩ := List.mem_filterMap.mp mem
    exact (request_eq_some request).2
  calc (y.course moves').bare
      = (y.bare.course ((requests moves').map .step)).bare := bare_course moves'
    _ = ((x.bare.rename ρ).course ((requests moves).map .step)).bare := by rw [alike, same]
    _ = ((x.bare.course ((requests moves).map .step)).rename ρ).bare := by
        rw [rename_course injective audits serve]
    _ = (x.bare.course ((requests moves).map .step)).bare.rename ρ := Course.bare_rename _
    _ = (x.course moves).bare.rename ρ := by rw [← bare_course moves]

/-- A wallet is registered, an administrator credits it, and an override forces a call to its target.
The last two have an event for the audit trail. -/
def sampleSteps : List Step :=
  let later : Instant := { Instant.start with second := 59, clock_valid := by decide }
  [.ledger (.createWallet (Ledger.sampleWallet Ledger.sampleKey)), .ledger sampleRefund,
    .insertOverride ⟨"acme", none, some "o-1", "sip:forced", later, none⟩, .route sampleCall]

/-- An exchange that asks its shelf for overrides and whose sink keeps every event. -/
def keeper : Exchange := { sample .empty 0 with overrideSupply := some .shelf }

/-- The same exchange under other identifiers, with a queue that has room for one event and a worker
whose first record cannot be kept. -/
def loser : Exchange :=
  { keeper.rename (Equiv.swap (Ledger.sampleId 1) (Ledger.sampleId 2)) with
    trail := ⟨some (.queue (.new 1)), [], .idle ⟨[], [some "down"]⟩⟩ }

/-- With the queue there are two lines more in the log: there is no room for the event of the call,
and the record of the credit is lost. Otherwise the courses are the same. -/
theorem same_course_of_losses :
    (loser.course (sampleSteps.map .step ++ [.receive, .append])).bare =
        (keeper.course (sampleSteps.map .step)).bare.rename
          (Equiv.swap (Ledger.sampleId 1) (Ledger.sampleId 2)) ∧
      (keeper.course (sampleSteps.map .step)).log.length = 2 ∧
      (loser.course (sampleSteps.map .step ++ [.receive, .append])).log.length = 4 := by
  refine ⟨same_course (Equiv.injective _) rfl rfl (by decide), rfl, rfl⟩

end Exchange

end CallExchange
