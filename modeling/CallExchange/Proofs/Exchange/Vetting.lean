import CallExchange.Exchange.Step
import CallExchange.Proofs.Exchange.Ledger
import CallExchange.Proofs.Routing.Ends

/-!
# What a store of overrides can force

The override stage does not trust what it finds. Whatever a store answers, a call is connected only
to the target of an override that has not expired, is of the workspace and, if it names a campaign,
of the campaign of the request, and has a target. The audit sink is told of it then, once, and of
nothing else. An override that has expired is as if it had not been found.

## Main definitions

* `AuditTrail.offerAll`, `Exchange.handed` — the events that routing hands to the sink, if there is
  one
* `Override.Forces` — what makes an override force the calls of a request
* `Surroundings.staged`, `Surroundings.Vetted` — the override stage alone, and what it makes of the
  answer of a store

## Main results

* `trail_settle` — the audit trail changes by the events that are handed to the sink
* `staged_of_forces`, `staged_of_not_forces`, `staged_of_expired` — what the stage makes of an
  override
* `vetted_of_named` — what the stage makes of any answer
-/

namespace CallExchange

open Text

/-! ### What is handed to the sink -/

/-- The audit trail after its sink, if there is one, has been called with some events. -/
def AuditTrail.offerAll (t : AuditTrail) (es : List AuditEvent) : AuditTrail :=
  es.foldl (fun t e => (t.offer e).2) t

theorem AuditTrail.snd_tell (t : AuditTrail) (e : AuditEvent) (refused : AuditError → LogEvent) :
    (t.tell e refused).2 = (t.offer e).2 := by
  unfold tell
  split <;> next offered => rw [offered]

theorem AuditTrail.offerAll_of_none {t : AuditTrail} (nobody : t.sink = none)
    (es : List AuditEvent) : t.offerAll es = t := by
  induction es with
  | nil => rfl
  | cons e es ih =>
    have unheard : (t.offer e).2 = t := by simp only [offer, nobody]
    rw [offerAll, List.foldl_cons, unheard]
    exact ih

namespace Exchange

/-- The events with which the sink is called after some questions have been asked: none where there
is no sink. -/
def handed (x : Exchange) (t : RouteTrace) : List AuditEvent :=
  if x.trail.sink.isSome then t.events.map .overrideApplied else []

theorem trail_tellAll (t : AuditTrail) (told : List (AuditEvent × (AuditError → LogEvent))) :
    (tellAll t told).2 = t.offerAll (told.map (·.1)) := by
  induction told generalizing t with
  | nil => rfl
  | cons p rest ih =>
    calc (tellAll t (p :: rest)).2
        = (tellAll (t.tell p.1 p.2).2 rest).2 := rfl
      _ = (t.offer p.1).2.offerAll (rest.map (·.1)) := by rw [ih, AuditTrail.snd_tell]

/-- The audit trail changes by the events that are handed to the sink. -/
theorem trail_settle (x : Exchange) (t : RouteTrace) :
    (x.settle t).2.trail = x.trail.offerAll (x.handed t) := by
  have told : (x.settle t).2.trail = x.trail.offerAll (t.events.map .overrideApplied) := by
    refine (trail_tellAll x.trail (overrideEvents t)).trans ?_
    rw [overrideEvents, List.map_map]
    rfl
  rw [told]
  cases sink : x.trail.sink with
  | none =>
    rw [AuditTrail.offerAll_of_none sink, AuditTrail.offerAll_of_none sink]
  | some _ => simp only [handed, sink, Option.isSome_some, if_true]

end Exchange

/-! ### What forces a call -/

/-- An override forces the calls of a request: it expires later, it is of the workspace, and of the
campaign if it names one, and it has a target. -/
structure Override.Forces (o : Override) (now : Instant) (workspaceId : String)
    (campaignId : Option String) : Prop where
  unexpired : now < o.expiresAt
  workspace : o.workspaceId = workspaceId
  campaign : o.campaignId = none ∨ o.campaignId = campaignId
  target : ¬IsBlank o.connectTo

namespace Surroundings

variable {s : Surroundings} {lookup : OverrideLookup} {workspaceId : String}
  {campaignId : Option String} {call : InboundCall} {context : CallContext} {o : Override}

/-- The override stage alone, over a store. -/
def staged (s : Surroundings) (lookup : OverrideLookup) (workspaceId : String)
    (campaignId : Option String) (call : InboundCall) (context : CallContext) :
    Routed (Option Decision) :=
  (s.override? lookup workspaceId campaignId call context).routed

/-- The override stage of an exchange answers and settles what it leaves behind. -/
theorem stepOverride_eq (x : Exchange) (supply : OverrideSupply) :
    x.stepOverride supply workspaceId campaignId call context =
      let staged := x.surroundings.staged (x.lookup supply) workspaceId campaignId call context
      ⟨.maybeDecision staged.answer, (x.settle staged.trace).1, (x.settle staged.trace).2⟩ := rfl

/-- What forces the request is applied. -/
theorem staged_of_forces (named : ¬IsBlank workspaceId)
    (found : lookup workspaceId campaignId call s.now = .ok (some o))
    (forces : o.Forces s.now workspaceId campaignId) :
    s.staged lookup workspaceId campaignId call context =
      ⟨.ok (some (.connect workspaceId campaignId o.connectTo)),
        ⟨[], [], [], [s.appliedEvent workspaceId campaignId call context o]⟩⟩ := by
  have active : o.IsActive s.now := forces.unexpired
  have covers : o.Covers workspaceId campaignId := ⟨forces.workspace, forces.campaign⟩
  have target : isBlank o.connectTo = false := by simpa using forces.target
  rw [staged, RouteM.routed, run_override? s lookup .empty named, found]
  simp only [active, covers, target, not_true_eq_false, if_false]
  rfl

/-- What has expired is as if it had not been found. -/
theorem staged_of_expired (named : ¬IsBlank workspaceId)
    (found : lookup workspaceId campaignId call s.now = .ok (some o))
    (expired : ¬s.now < o.expiresAt) :
    s.staged lookup workspaceId campaignId call context = ⟨.ok none, .empty⟩ := by
  have inactive : ¬o.IsActive s.now := expired
  rw [staged, RouteM.routed, run_override? s lookup .empty named, found]
  simp only [inactive, not_false_eq_true, if_true]

/-- Where nothing forces the request, nothing is applied. -/
theorem staged_of_not_forces (named : ¬IsBlank workspaceId)
    (unforced : ∀ o, lookup workspaceId campaignId call s.now = .ok (some o) →
      ¬o.Forces s.now workspaceId campaignId) :
    (s.staged lookup workspaceId campaignId call context).trace = .empty ∧
      ∀ d, (s.staged lookup workspaceId campaignId call context).answer ≠ .ok (some d) := by
  rw [staged, RouteM.routed, run_override? s lookup .empty named]
  cases found : lookup workspaceId campaignId call s.now with
  | error words => exact ⟨rfl, fun d connected => by cases connected⟩
  | ok answer =>
    cases answer with
    | none => exact ⟨rfl, fun d connected => by cases connected⟩
    | some o =>
      -- one of the three conditions does not hold; they are looked at in this order
      by_cases active : o.IsActive s.now
      · by_cases covers : o.Covers workspaceId campaignId
        · have blank : isBlank o.connectTo = true := Classical.byContradiction fun target =>
            unforced o found ⟨active, covers.1, covers.2, target⟩
          simp only [active, covers, blank, not_true_eq_false, if_false, if_true]
          exact ⟨trivial, fun d connected => by cases connected⟩
        · simp only [active, covers, not_true_eq_false, not_false_eq_true, if_false, if_true]
          exact ⟨trivial, fun d connected => by cases connected⟩
      · simp only [active, not_false_eq_true, if_true]
        exact ⟨trivial, fun d connected => by cases connected⟩

/-- What the override stage makes of the answer of any store, and what the sink of an exchange is
told of it. -/
structure Vetted (x : Exchange) (s : Surroundings) (lookup : OverrideLookup) (workspaceId : String)
    (campaignId : Option String) (call : InboundCall) (context : CallContext) : Prop where
  /-- A call is connected exactly if the store has returned an override that forces it: then to its
  target, under the workspace and the campaign of the request, and without a reason. -/
  connects : ∀ d, (s.staged lookup workspaceId campaignId call context).answer = .ok (some d) ↔
    ∃ o, lookup workspaceId campaignId call s.now = .ok (some o) ∧
      o.Forces s.now workspaceId campaignId ∧
      d = ⟨workspaceId, campaignId, .connect o.connectTo, none⟩
  /-- An override that has expired is neither a decision nor an error, whatever else is wrong with
  it. -/
  expired : ∀ o, lookup workspaceId campaignId call s.now = .ok (some o) → ¬s.now < o.expiresAt →
    (s.staged lookup workspaceId campaignId call context).answer = .ok none
  /-- Of an override that forces the call the sink is told, once. -/
  told : x.trail.sink.isSome = true →
    ∀ o, lookup workspaceId campaignId call s.now = .ok (some o) →
      o.Forces s.now workspaceId campaignId →
      x.handed (s.staged lookup workspaceId campaignId call context).trace =
        [.overrideApplied {
          workspaceId := workspaceId
          campaignId := campaignId
          overrideId := o.overrideId
          providerCallId := call.providerCallId
          caller := call.caller
          dialed := call.dialed
          clientIp := context.clientIp
          actorUserId := context.actorUserId
          connectTo := o.connectTo
          appliedAt := s.now
          expiresAt := o.expiresAt
          metadata := o.metadata }]
  /-- Of nothing else it is told. -/
  untold : (∀ d, (s.staged lookup workspaceId campaignId call context).answer ≠ .ok (some d)) →
    x.handed (s.staged lookup workspaceId campaignId call context).trace = []
  /-- The audit trail changes by what the sink is told. -/
  trail : (x.settle (s.staged lookup workspaceId campaignId call context).trace).2.trail =
    x.trail.offerAll (x.handed (s.staged lookup workspaceId campaignId call context).trace)

/-- No store can force a call otherwise than by an override that stands up to the request. -/
theorem vetted_of_named (x : Exchange) (s : Surroundings) (lookup : OverrideLookup)
    (named : ¬IsBlank workspaceId) (campaignId : Option String) (call : InboundCall)
    (context : CallContext) : Vetted x s lookup workspaceId campaignId call context where
  connects d := by
    constructor
    · intro connected
      by_cases forced : ∃ o, lookup workspaceId campaignId call s.now = .ok (some o) ∧
          o.Forces s.now workspaceId campaignId
      · obtain ⟨o, found, forces⟩ := forced
        rw [staged_of_forces named found forces] at connected
        cases connected
        exact ⟨o, found, forces, rfl⟩
      · have unforced : ∀ o, lookup workspaceId campaignId call s.now = .ok (some o) →
            ¬o.Forces s.now workspaceId campaignId :=
          fun o found forces => forced ⟨o, found, forces⟩
        exact absurd connected ((staged_of_not_forces named unforced).2 d)
    · rintro ⟨o, found, forces, rfl⟩
      rw [staged_of_forces named found forces]
      rfl
  expired o found expired := by rw [staged_of_expired named found expired]
  told wired o found forces := by
    rw [staged_of_forces named found forces, Exchange.handed, if_pos wired]
    rfl
  untold nothing := by
    have unforced : ∀ o, lookup workspaceId campaignId call s.now = .ok (some o) →
        ¬o.Forces s.now workspaceId campaignId := by
      intro o found forces
      apply nothing
      rw [staged_of_forces named found forces]
    rw [(staged_of_not_forces named unforced).1, Exchange.handed]
    exact ite_self []
  trail := Exchange.trail_settle x _

/-- A store that sends every call of the workspaces that it is asked for to one desk. -/
def hijacker : OverrideLookup := fun workspaceId _ _ _ =>
  .ok (some {
    workspaceId := workspaceId
    campaignId := none
    overrideId := some "o-1"
    connectTo := "sip:desk"
    expiresAt := { Instant.start with minute := 30, clock_valid := by decide }
    metadata := none })

theorem vetted_of_hijacker :
    ¬IsBlank "acme" ∧
      Vetted (Exchange.sample .empty 0) sampleSurroundings hijacker "acme" (some "summer")
        sampleCall.inbound sampleCall.context :=
  have named : ¬IsBlank "acme" := by decide
  ⟨named, vetted_of_named _ _ hijacker named _ _ _⟩

end Surroundings

end CallExchange
