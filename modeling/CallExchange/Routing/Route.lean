import CallExchange.Audit.Record
import CallExchange.Decision
import CallExchange.Log
import CallExchange.Override.Shelf
import CallExchange.Routing.Error
import CallExchange.Routing.Pick

/-!
# Routing a call

A call is routed by an ordered chain that stops at the first stage with a decision: an override, the
bypass of a privileged role, the balance gate, the requirement of a campaign, the campaign's rules,
the choice of a destination by weight. The chain is written over its collaborators as functions, and
it keeps a trace of what it asked of them.

## Main definitions

* `RouteInput` — what is known of a call
* `Surroundings` — the clock, the random source and the collaborators that are there
* `RouteTrace` — what was asked of them
* `Surroundings.override?` — the override stage
* `Surroundings.decide`, `Surroundings.route` — the whole chain
-/

namespace CallExchange

open Text

/-- What is known of a call when it is routed. -/
structure RouteInput where
  workspaceId : String
  campaignId : Option String
  /-- The acting role, if the call is made on somebody's behalf. -/
  actorRole : Option Role
  walletId : Option String
  /-- The balance gate applies to a positive estimate only. -/
  estimatedCost : Option Minor
  currency : Option String
  inbound : InboundCall
  context : CallContext
  deriving Repr, Inhabited

/-- Finds the override in force for a workspace, a campaign and a call at a time. -/
abbrev OverrideLookup :=
  String → Option String → InboundCall → Instant → Except String (Option Override)

/-- Reads the balance of a wallet. -/
abbrev BalanceReader := WalletKey → Except (Halt WalletError) Balance

/-- Evaluates the rules of a workspace's campaign for a call. -/
abbrev CampaignEvaluator := String → String → InboundCall → Except String Evaluation

/-- The clock, the random source and the collaborators that are there. -/
structure Surroundings where
  now : Instant
  overrides : Option OverrideLookup
  balances : Option BalanceReader
  campaigns : Option CampaignEvaluator
  /-- What the random source would answer to its next question. -/
  answer : UInt64 → UInt64

/-- A call of the campaign evaluator. -/
structure EvaluatorCall where
  workspaceId : String
  campaignId : String
  providerCallId : String
  deriving DecidableEq, Repr, Inhabited

/-- What was asked of the collaborators, in order. -/
structure RouteTrace where
  /-- Wallets whose balance was read. -/
  balanceReads : List WalletKey
  evaluations : List EvaluatorCall
  /-- Bounds that the random source was asked for. -/
  draws : List UInt64
  /-- Overrides that were applied, for the audit trail. -/
  events : List OverrideEvent
  deriving Repr

/-- Nothing asked. -/
def RouteTrace.empty : RouteTrace := ⟨[], [], [], []⟩

/-- A computation that asks collaborators. -/
abbrev RouteM := EStateM (Halt RoutingError) RouteTrace

namespace Surroundings

/-- Ends routing with an error. -/
def fail {α : Type} (e : RoutingError) : RouteM α := throw (.failed e)

/-- Ends routing with an error if a condition holds. -/
def failIf (c : Prop) [Decidable c] (e : RoutingError) : RouteM Unit :=
  if c then fail e else pure ()

/-- The audit event of an override that is applied. -/
def appliedEvent (s : Surroundings) (workspaceId : String) (campaignId : Option String)
    (call : InboundCall) (context : CallContext) (o : Override) : OverrideEvent where
  workspaceId := workspaceId
  campaignId := campaignId
  overrideId := o.overrideId
  providerCallId := call.providerCallId
  caller := call.caller
  dialed := call.dialed
  clientIp := context.clientIp
  actorUserId := context.actorUserId
  connectTo := o.connectTo
  appliedAt := s.now
  expiresAt := o.expiresAt
  metadata := o.metadata

/-- What an active override does: it must cover the request and have a target, and then the call
goes there. -/
def applied (s : Surroundings) (workspaceId : String) (campaignId : Option String)
    (call : InboundCall) (context : CallContext) (o : Override) : RouteM (Option Decision) := do
  failIf (¬o.Covers workspaceId campaignId) (.overrideScopeMismatch o.overrideId)
  failIf (isBlank o.connectTo) (.emptyOverrideTarget o.overrideId)
  let event := s.appliedEvent workspaceId campaignId call context o
  modify fun t => { t with events := t.events ++ [event] }
  return some (.connect workspaceId campaignId o.connectTo)

/-- The override stage: a connect if an override is in force. What the lookup found is not trusted:
it must be active, cover the request, and have a target. -/
def override? (s : Surroundings) (lookup : OverrideLookup) (workspaceId : String)
    (campaignId : Option String) (call : InboundCall) (context : CallContext) :
    RouteM (Option Decision) := do
  failIf (isBlank workspaceId) .missingWorkspace
  match lookup workspaceId campaignId call s.now with
  | .error words => fail (.overrideStore words)
  | .ok none => return none
  | .ok (some o) =>
    if ¬o.IsActive s.now then return none
    else s.applied workspaceId campaignId call context o

/-- Asks the evaluator about a campaign. -/
def evaluate (evaluator : CampaignEvaluator) (workspaceId campaignId : String)
    (call : InboundCall) : RouteM (Except String Evaluation) := do
  modify fun t =>
    { t with
      evaluations := t.evaluations ++ [⟨workspaceId, campaignId, call.providerCallId⟩] }
  return evaluator workspaceId campaignId call

/-- Picks a destination by weight. -/
def pick (s : Surroundings) (ds : List Destination) : RouteM (Option Destination) := do
  let p := Destination.pick ds s.answer
  modify fun t => { t with draws := t.draws ++ p.asked.toList }
  return p.destination? ds

/-- A privileged call goes to a destination of its campaign if there is one. Neither a refusal nor
a failure of the rules can block it otherwise than for want of a destination. -/
def privileged (s : Surroundings) (workspaceId : String) (campaignId : Option String)
    (call : InboundCall) : RouteM Decision := do
  let rejected := Decision.reject workspaceId campaignId .adminOverrideNoDestination
  match campaignId, s.campaigns with
  | some campaign, some evaluator =>
    match ← evaluate evaluator workspaceId campaign call with
    | .error _ => return rejected
    | .ok evaluation =>
      match ← s.pick evaluation.destinations with
      | some d => return (Decision.connect workspaceId campaignId d.target).because .adminOverride
      | none => return rejected
  | _, _ => return rejected

/-- Why a balance does not cover a cost, if it does not. -/
def shortfall? (balance : Balance) (cost : Minor) (currency : String) : Option Reason :=
  if balance.currency ≠ currency then some .walletCurrencyMismatch
  else if balance.amount < cost then some .insufficientBalance
  else none

/-- The balance gate for a positive cost: the reason to reject, if the wallet cannot cover it. -/
def gate (s : Surroundings) (input : RouteInput) (cost : Minor) : RouteM (Option Reason) := do
  match s.balances, present input.walletId, present input.currency with
  | none, _, _ => fail (.notConfigured .walletService)
  | some _, none, _ => fail (.missingWalletContext .walletId)
  | some _, some _, none => fail (.missingWalletContext .currency)
  | some read, some walletId, some currency =>
    let key : WalletKey := ⟨input.workspaceId, walletId⟩
    modify fun t => { t with balanceReads := t.balanceReads ++ [key] }
    match read key with
    | .error .waiting => throw .waiting
    | .error (.failed cause) => fail (.wallet cause)
    | .ok balance => return shortfall? balance cost currency

/-- A destination is chosen; without one the call is rejected. -/
def select (s : Surroundings) (workspaceId : String) (campaignId : Option String)
    (ds : List Destination) : RouteM Decision := do
  match ← s.pick ds with
  | some d => return (Decision.connect workspaceId campaignId d.target).because .selected
  | none => return .reject workspaceId campaignId .noEligibleDestination

/-- The stages that follow the gate: a campaign is required, its rules are evaluated, and a
destination is chosen. -/
def afterGate (s : Surroundings) (workspaceId : String) (campaignId : Option String)
    (call : InboundCall) : RouteM Decision := do
  match campaignId with
  | none => return .reject workspaceId none .campaignIdRequired
  | some campaign =>
    match s.campaigns with
    | none => fail (.notConfigured .campaignEvaluator)
    | some evaluator =>
      match ← evaluate evaluator workspaceId campaign call with
      | .error words => fail (.campaign words)
      | .ok evaluation =>
        if evaluation.allowed then s.select workspaceId campaignId evaluation.destinations
        else return .reject workspaceId campaignId (.denied evaluation.reason)

/-- Why the balance gate rejects a call, if it does. It applies to a positive cost only. -/
def rejection? (s : Surroundings) (input : RouteInput) : RouteM (Option Reason) :=
  match input.estimatedCost.filter (0 < ·) with
  | none => pure none
  | some cost => s.gate input cost

/-- The stages that follow the override stage. -/
def decideOrdinary (s : Surroundings) (input : RouteInput) (campaignId : Option String) :
    RouteM Decision := do
  if input.actorRole.any Role.isPrivileged then
    s.privileged input.workspaceId campaignId input.inbound
  else
    match ← s.rejection? input with
    | some reason => return .reject input.workspaceId campaignId reason
    | none => s.afterGate input.workspaceId campaignId input.inbound

/-- The whole chain. A blank campaign is no campaign. -/
def decide (s : Surroundings) (input : RouteInput) : RouteM Decision := do
  failIf (isBlank input.workspaceId) .missingWorkspace
  let campaignId := present input.campaignId
  match s.overrides with
  | none => s.decideOrdinary input campaignId
  | some lookup =>
    match ← s.override? lookup input.workspaceId campaignId input.inbound input.context with
    | some decision => return decision
    | none => s.decideOrdinary input campaignId

end Surroundings

/-- What routing leaves behind: the answer and what was asked of the collaborators. -/
structure Routed (α : Type) where
  answer : Except (Halt RoutingError) α
  trace : RouteTrace

/-- What a computation leaves behind that has asked nothing before. -/
def RouteM.routed {α : Type} (m : RouteM α) : Routed α :=
  match m.run .empty with
  | .ok a t => ⟨.ok a, t⟩
  | .error e t => ⟨.error e, t⟩

/-- Routes one call. -/
def Surroundings.route (s : Surroundings) (input : RouteInput) : Routed Decision :=
  (s.decide input).routed

/-- The log line of a routed call. -/
def Decision.logLine (d : Decision) : LogEvent := .routed d.workspaceId d.action.kind

end CallExchange
