import CallExchange.Exchange.Step
import CallExchange.Json.Writer
import CallExchange.Proofs.Exchange.Ledger
import CallExchange.Proofs.Routing.Ends
import CallExchange.Wire.Call

/-!
# What a provider can tell

A provider sees the answer to its call, and whoever reads the log sees what routing has written.
Neither shows which stage has decided: a call that an override has forced to a target looks like one
that was selected for it, and one rejection looks like another. Only the audit trail knows, and it
does not write to the log unless it refuses an event.

## Main definitions

* `Exchange.inbound` — the answer to a provider's call and the log of its routing
* `Exchange.Discreet`, `Exchange.Noted` — what the answer and the log consist of
* `AuditTrail.Takes` — the sink, if there is one, does not refuse an event

## Main results

* `discreet_of_answered`, `log_of_answered` — the answer has the workspace, the action and the
  target, and the log has the workspace and the action
* `indistinguishable` — calls with the same action and target cannot be told apart
-/

namespace CallExchange

open Text

/-- The sink does not refuse the event, if there is a sink. -/
def AuditTrail.Takes (t : AuditTrail) (e : AuditEvent) : Prop :=
  ∀ error, (t.offer e).1 ≠ some (.error error)

/-- Handing over an event that is not refused writes nothing to the log. -/
theorem AuditTrail.tell_of_takes {t : AuditTrail} {e : AuditEvent} (takes : t.Takes e)
    (refused : AuditError → LogEvent) : (t.tell e refused).1 = [] := by
  unfold tell
  split
  · next error _ offered => exact absurd (congrArg Prod.fst offered) (takes error)
  · rfl
  · rfl

namespace Surroundings

variable {s : Surroundings} {input : RouteInput} {r : Routed Decision} {d : Decision}

/-- A decision is one of the call's workspace. -/
theorem workspaceId_of_ends (ends : s.Ends input r) (answered : r.answer = .ok d) :
    d.workspaceId = input.workspaceId := by
  cases ends with
  | nameless _ missing =>
    rw [missing] at answered
    cases answered
  | overruled _ overruled =>
    cases overruled <;> cases answered
    rfl
  | bypassed _ _ bypassed => cases bypassed <;> cases answered <;> rfl
  | barred _ barred => cases barred <;> cases answered <;> rfl
  | judged _ _ judged => cases judged <;> cases answered <;> rfl

/-- Routing has at most one event for the audit trail. -/
theorem length_events_of_ends (ends : s.Ends input r) : r.trace.events.length ≤ 1 := by
  cases ends with
  | nameless _ missing =>
    rw [missing]
    exact Nat.zero_le 1
  | overruled _ overruled => cases overruled <;> simp [RouteTrace.empty]
  | bypassed _ _ bypassed => cases bypassed <;> simp [RouteTrace.empty]
  | barred _ barred => cases barred <;> simp [RouteTrace.empty, RouteTrace.ofReads]
  | judged _ _ judged => cases judged <;> simp [RouteTrace.ofReads]

end Surroundings

/-- What a resolver finds for a call is of the call's workspace. -/
theorem Resolver.workspaceId_of_input {r : Resolver} {call : InboundCall} {context : CallContext}
    {input : RouteInput} (found : r.input call context = .ok input) :
    input.workspaceId = call.workspaceId := by
  simp only [Resolver.input, bind, Except.bind] at found
  split at found
  · cases found
  split at found
  · cases found
  split at found
  · cases found
  split at found
  · cases found
  · cases found
    rfl

namespace Exchange

variable {s : Surroundings} {x : Exchange} {resolver : Resolver} {call : InboundCall}
  {context : CallContext} {a : CallAnswer}

/-- The answer to a provider's call that any surroundings route, and what the routing writes to the
log of an exchange. -/
def inbound (x : Exchange) (s : Surroundings) (resolver : Resolver) (call : InboundCall)
    (context : CallContext) : Except (Halt RoutingError) CallAnswer × List LogEvent :=
  let routed := s.routeInbound resolver call context
  (routed.answer.map Decision.toAnswer, (x.finish routed).1)

/-- A step of the exchange that routes a call answers and logs this, in its own surroundings. -/
theorem step_routeInbound :
    x.step (.routeInbound (.chain resolver) call context) =
      ⟨.inbound (x.inbound x.surroundings resolver call context).1
          (x.surroundings.routeInbound resolver call context).trace,
        (x.inbound x.surroundings resolver call context).2,
        (x.finish (x.surroundings.routeInbound resolver call context)).2⟩ := rfl

/-- The sink of an exchange refuses none of the events that routing a call has for it. -/
def Undisturbed (x : Exchange) (s : Surroundings) (resolver : Resolver) (call : InboundCall)
    (context : CallContext) : Prop :=
  ∀ e ∈ (s.routeInbound resolver call context).trace.events, x.trail.Takes (.overrideApplied e)

/-- What the answer to a call consists of. -/
structure Discreet (call : InboundCall) (a : CallAnswer) : Prop where
  answer : a = ⟨call.workspaceId, none, a.action, a.connectTo⟩
  target : a.connectTo.isSome ↔ a.action = .connect
  /-- The written answer has no members but these: neither a reason nor a role is among them. -/
  written : a.toJson =
    .object ([("workspace_id", .string call.workspaceId), ("call_id", .null),
      ("action", .string a.action.name)] ++ Json.unlessAbsent "connect_to" .string a.connectTo)

/-- The log of a call that is answered: one line for debugging, with the workspace and the
action. -/
def Noted (call : InboundCall) (a : CallAnswer) (log : List LogEvent) : Prop :=
  log.map (fun e => (e.level, e.message, e.fields)) =
    [(.debug, "Routed inbound call",
      [("workspace_id", .string call.workspaceId), ("action", .string a.action.name)])]

/-- A call that is answered has been routed to a decision of its workspace. -/
theorem decision_of_answered (answered : (x.inbound s resolver call context).1 = .ok a) :
    ∃ d : Decision, (s.routeInbound resolver call context).answer = .ok d ∧ a = d.toAnswer ∧
      d.workspaceId = call.workspaceId ∧
      (s.routeInbound resolver call context).trace.events.length ≤ 1 := by
  cases decided : (s.routeInbound resolver call context).answer with
  | error halt => simp [inbound, decided, Except.map] at answered
  | ok d =>
    have same : d.toAnswer = a := by simpa [inbound, decided, Except.map] using answered
    refine ⟨d, rfl, same.symm, ?_⟩
    cases found : resolver.input call context with
    | error e => simp [Surroundings.routeInbound, found] at decided
    | ok input =>
      simp only [Surroundings.routeInbound, found] at decided ⊢
      have ends := s.ends_route input
      exact ⟨(Surroundings.workspaceId_of_ends ends decided).trans
        (Resolver.workspaceId_of_input found), Surroundings.length_events_of_ends ends⟩

/-- The answer to a call has the call's workspace, the action and the target, and nothing else. -/
theorem discreet_of_answered (answered : (x.inbound s resolver call context).1 = .ok a) :
    Discreet call a := by
  obtain ⟨d, -, rfl, workspace, -⟩ := decision_of_answered answered
  have answer : d.toAnswer = ⟨call.workspaceId, none, d.action.kind, d.connectTo⟩ := by
    rw [Decision.toAnswer, workspace]
  refine ⟨answer, ?_, ?_⟩
  · rw [answer, Decision.connectTo]
    cases d.action <;> simp [Action.kind, Action.target?]
  · rw [answer]
    rfl

/-- While the sink refuses nothing, all that is logged of a call is its decision. -/
theorem log_of_answered (answered : (x.inbound s resolver call context).1 = .ok a)
    (undisturbed : x.Undisturbed s resolver call context) :
    (x.inbound s resolver call context).2 = [.routed call.workspaceId a.action] := by
  obtain ⟨d, decided, rfl, workspace, few⟩ := decision_of_answered answered
  have silent : (tellAll x.trail
      (overrideEvents (s.routeInbound resolver call context).trace)).1 = [] := by
    match events : (s.routeInbound resolver call context).trace.events with
    | [] => simp [overrideEvents, events, tellAll]
    | [e] =>
      have takes : x.trail.Takes (.overrideApplied e) := undisturbed e (by simp [events])
      simp [overrideEvents, events, tellAll, AuditTrail.tell_of_takes takes]
    | _ :: _ :: _ => simp [events] at few
  simp [inbound, finish, settle, decided, silent, Decision.logLine, Decision.toAnswer, workspace]

variable {s' : Surroundings} {x' : Exchange} {resolver' : Resolver} {call' : InboundCall}
  {context' : CallContext} {a' : CallAnswer}

/-- Two calls of one workspace that are answered with the same action and, if they are connected,
with the same target, cannot be told apart, whatever has decided them: the answers are equal, and so
is what is written of them. Unless a sink refuses an event, the logs are equal too, and show the
workspace and the action only. -/
theorem indistinguishable (workspace : call.workspaceId = call'.workspaceId)
    (answered : (x.inbound s resolver call context).1 = .ok a)
    (answered' : (x'.inbound s' resolver' call' context').1 = .ok a')
    (action : a.action = a'.action)
    (target : a.action = .connect → a.connectTo = a'.connectTo) :
    a = a' ∧ a.toJson = a'.toJson ∧ a.toJson.toText = a'.toJson.toText ∧
      Discreet call a ∧ Discreet call' a' ∧
      (x.Undisturbed s resolver call context → x'.Undisturbed s' resolver' call' context' →
        (x.inbound s resolver call context).2 = (x'.inbound s' resolver' call' context').2 ∧
          Noted call a (x.inbound s resolver call context).2) := by
  have discreet := discreet_of_answered answered
  have discreet' := discreet_of_answered answered'
  have connects : a.connectTo = a'.connectTo := by
    by_cases connected : a.action = .connect
    · exact target connected
    · have untargeted : a.connectTo = none := by simpa using mt discreet.target.mp connected
      have untargeted' : a'.connectTo = none := by
        simpa using mt discreet'.target.mp (action ▸ connected)
      rw [untargeted, untargeted']
  have same : a = a' := by
    rw [discreet.answer, discreet'.answer, workspace, action, connects]
  refine ⟨same, same ▸ rfl, same ▸ rfl, discreet, discreet', fun undisturbed undisturbed' => ?_⟩
  have log := log_of_answered answered undisturbed
  refine ⟨?_, ?_⟩
  · rw [log, log_of_answered answered' undisturbed', workspace, action]
  · rw [log]
    rfl

/-- A resolver that finds the campaign, the wallet and the role of `sampleCall`. -/
def sampleResolver : Resolver where
  campaign := fun _ => .ok (some "summer")
  wallet := fun _ => .ok (some ⟨"main", 7, "USD"⟩)
  role := fun _ _ => .ok (some "agent")

/-- Surroundings with an override that forces every call of a workspace to the target that is
selected without it. -/
def forcedSurroundings : Surroundings :=
  { sampleSurroundings with
    overrides := some fun workspaceId _ _ _ =>
      let later : Instant := { Instant.start with minute := 59, clock_valid := by decide }
      .ok (some ⟨workspaceId, none, some "o-1", "sip:front", later, none⟩) }

/-- The answer to `sampleCall` and its log in some surroundings. -/
def sampleInbound (s : Surroundings) (r : Resolver) :
    Except (Halt RoutingError) CallAnswer × List LogEvent :=
  (sample .empty 0).inbound s r sampleCall.inbound sampleCall.context

theorem indistinguishable_of_forced :
    (sampleInbound sampleSurroundings sampleResolver).1 =
        .ok ⟨"acme", none, .connect, some "sip:front"⟩ ∧
      (sampleInbound forcedSurroundings .nothing).1 =
        .ok ⟨"acme", none, .connect, some "sip:front"⟩ ∧
      (sampleInbound sampleSurroundings sampleResolver).2 =
        (sampleInbound forcedSurroundings .nothing).2 := by
  have selected : (sampleInbound sampleSurroundings sampleResolver).1 =
      .ok ⟨"acme", none, .connect, some "sip:front"⟩ := rfl
  have forced : (sampleInbound forcedSurroundings .nothing).1 =
      .ok ⟨"acme", none, .connect, some "sip:front"⟩ := rfl
  obtain ⟨-, -, -, -, -, logs⟩ := indistinguishable rfl selected forced rfl fun _ => rfl
  have undisturbed (s : Surroundings) (r : Resolver) :
      (sample .empty 0).Undisturbed s r sampleCall.inbound sampleCall.context := by
    rintro e - error (refused : some (Except.ok ()) = some (.error error))
    cases refused
  exact ⟨selected, forced, (logs (undisturbed _ _) (undisturbed _ _)).1⟩

end Exchange

end CallExchange
