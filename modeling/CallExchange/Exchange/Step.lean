import CallExchange.Exchange.Basic

/-!
# Steps of an exchange

Everything that happens to an exchange is a step: the clock moves, an operation of the ledger, the
shelf or the table of campaigns changes, a call is routed, an event is audited, the audit worker
runs. A step leaves an answer, lines of the log, and the next state.

## Main definitions

* `Exchange.Step`, `Exchange.Answer` — what can happen, and what is answered
* `Exchange.step` — one step
* `Exchange.run` — a list of steps
-/

namespace CallExchange.Exchange

/-- Who routes a provider's call. -/
inductive Router where
  /-- The chain, with what a resolver finds. -/
  | chain (r : Resolver)
  | rejectAll

/-- What can happen to an exchange. -/
inductive Step where
  | setNow (now : Instant)
  | ledger (op : Ledger.Op)
  | insertOverride (o : Override)
  | purgeOverrides
  | findOverride (workspaceId : String) (campaignId : Option String)
  /-- The override stage alone. -/
  | decideOverride (workspaceId : String) (campaignId : Option String) (call : InboundCall)
      (context : CallContext)
  | setCampaign (campaignId : String) (rules : Except String Evaluation)
  | route (input : RouteInput)
  | routeInbound (router : Router) (call : InboundCall) (context : CallContext)
  | takeEvents
  | send (e : AuditEvent)
  | append (e : AuditEvent)
  | drain
  | close
  | abort
  | records (workspaceId : String)

/-- What a step answers. -/
inductive Answer where
  | done
  | ledger (answer : Except (Halt WalletError) Ledger.Answer)
  | count (n : Nat)
  | flag (b : Bool)
  | maybeOverride (o : Option Override)
  | maybeDecision (answer : Except (Halt RoutingError) (Option Decision))
  /-- There is no override stage. -/
  | noOverrides
  /-- A decision, with what was asked on the way. -/
  | decision (answer : Except (Halt RoutingError) Decision) (trace : RouteTrace)
  | inbound (answer : Except (Halt RoutingError) CallAnswer) (trace : RouteTrace)
  | events (es : List AuditEvent)
  | audited (answer : Except AuditError Unit)
  /-- There is nothing to hand an event to. -/
  | noSink
  | records (rs : List AuditRecord)

/-- What a step leaves behind. -/
structure Result where
  answer : Answer
  log : List LogEvent
  next : Exchange

/-- Hands events over one after the other; refusals become lines of the log. -/
def tellAll (t : AuditTrail) : List (AuditEvent × (AuditError → LogEvent)) →
    List LogEvent × AuditTrail
  | [] => ([], t)
  | (e, refused) :: rest =>
    let (lines, t) := t.tell e refused
    let (more, t) := tellAll t rest
    (lines ++ more, t)

/-- The events of overrides that were applied. -/
def overrideEvents (t : RouteTrace) : List (AuditEvent × (AuditError → LogEvent)) :=
  t.events.map fun e => (.overrideApplied e, .dispatchFailed)

/-- The events of administrative actions that were committed. -/
def actionEvents (as : List AdminAction) : List (AuditEvent × (AuditError → LogEvent)) :=
  as.map fun a => (.adminAction a.toEvent, .actionNotRecorded a.workspaceId a.id)

/-- The exchange after the questions of a trace have been asked and its events handed over, with the
lines of the log. -/
def settle (x : Exchange) (t : RouteTrace) : List LogEvent × Exchange :=
  let (lines, trail) := tellAll x.trail (overrideEvents t)
  (lines, { x with trail, source := x.source.after t.draws })

/-- The exchange after routing: the trace is settled, and a decision is logged. -/
def finish (x : Exchange) (r : Routed Decision) : List LogEvent × Exchange :=
  let (lines, x) := x.settle r.trace
  match r.answer with
  | .ok d => (lines ++ [d.logLine], x)
  | .error _ => (lines, x)

/-- An operation of the ledger: its reports are handed to the audit trail. -/
def stepLedger (x : Exchange) (op : Ledger.Op) : Result :=
  let outcome := Ledger.step x.stamp x.ledger op
  let (lines, trail) := tellAll x.trail (actionEvents outcome.reports)
  ⟨.ledger outcome.answer, outcome.log ++ lines,
    { x with ledger := outcome.ledger, trail, operations := x.operations + 1 }⟩

/-- The override stage alone. -/
def stepOverride (x : Exchange) (supply : OverrideSupply) (workspaceId : String)
    (campaignId : Option String) (call : InboundCall) (context : CallContext) : Result :=
  let r := (x.surroundings.override? (x.lookup supply) workspaceId campaignId call context).routed
  let (lines, next) := x.settle r.trace
  ⟨.maybeDecision r.answer, lines, next⟩

/-- One step. -/
def step (x : Exchange) : Step → Result
  | .setNow now => ⟨.done, [], { x with now }⟩
  | .ledger op => x.stepLedger op
  | .insertOverride o => ⟨.done, [], { x with shelf := x.shelf.insert o }⟩
  | .purgeOverrides =>
    let (n, shelf) := x.shelf.purge x.now
    ⟨.count n, [], { x with shelf }⟩
  | .findOverride workspaceId campaignId =>
    ⟨.maybeOverride (x.shelf.find? workspaceId campaignId x.now), [], x⟩
  | .decideOverride workspaceId campaignId call context =>
    match x.overrideSupply with
    | none => ⟨.noOverrides, [], x⟩
    | some supply => x.stepOverride supply workspaceId campaignId call context
  | .setCampaign campaignId rules =>
    ⟨.done, [], { x with campaigns := x.campaigns.set campaignId rules }⟩
  | .route input =>
    let r := x.surroundings.route input
    let (lines, next) := x.finish r
    ⟨.decision r.answer r.trace, lines, next⟩
  | .routeInbound .rejectAll call _ =>
    ⟨.inbound ((rejectAll call).mapError .failed) .empty, [], x⟩
  | .routeInbound (.chain resolver) call context =>
    let r := x.surroundings.routeInbound resolver call context
    let (lines, next) := x.finish r
    ⟨.inbound (r.answer.map Decision.toAnswer) r.trace, lines, next⟩
  | .takeEvents =>
    let (es, trail) := x.trail.take
    ⟨.events es, [], { x with trail }⟩
  | .send e =>
    let (answer, trail) := x.trail.offer e
    match answer with
    | none => ⟨.noSink, [], x⟩
    | some answer => ⟨.audited answer, [], { x with trail }⟩
  | .append e =>
    let (answer, trail) := x.trail.append e x.now
    ⟨.audited answer, [], { x with trail }⟩
  | .drain =>
    let (lines, trail) := x.trail.drain x.ids.record x.now
    ⟨.done, lines, { x with trail }⟩
  | .close =>
    let (ran, lines, trail) := x.trail.close x.ids.record x.now
    ⟨.flag ran, lines, { x with trail }⟩
  | .abort => ⟨.done, [], { x with trail := x.trail.abort }⟩
  | .records workspaceId => ⟨.records (x.trail.worker.repository.ofWorkspace workspaceId), [], x⟩

/-- The results of a list of steps. -/
def run (x : Exchange) : List Step → List Result
  | [] => []
  | s :: rest =>
    let r := x.step s
    r :: run r.next rest

end CallExchange.Exchange
