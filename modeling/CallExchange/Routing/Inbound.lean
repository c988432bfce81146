import CallExchange.Routing.Route

/-!
# Calls from a provider

A provider knows the two numbers of a call. Which campaign, wallet and acting role belong to it, a
resolver finds out; only when it has found all three is the call routed. The provider's answer
carries an action and a target and never a reason.

## Main definitions

* `Resolver` — finds what the provider does not know
* `Surroundings.routeInbound` — routes a provider's call
* `rejectAll` — the router that rejects every call
-/

namespace CallExchange

open Text

/-- The wallet that pays for a call. -/
structure WalletContext where
  walletId : String
  estimatedCost : Minor
  currency : String
  deriving DecidableEq, Repr, Inhabited

/-- Finds what belongs to a call. A role is found by its raw name. -/
structure Resolver where
  campaign : InboundCall → Except String (Option String)
  wallet : InboundCall → Except String (Option WalletContext)
  role : InboundCall → CallContext → Except String (Option String)

namespace Resolver

/-- Finds nothing. -/
def nothing : Resolver := ⟨fun _ => .ok none, fun _ => .ok none, fun _ _ => .ok none⟩

/-- The role of a raw name; a blank name is no role. -/
def parseRole (name : Option String) : Except RoutingError (Option Role) :=
  match present name with
  | none => .ok none
  | some name =>
    match Role.parse name with
    | .ok role => .ok (some role)
    | .error unknown => .error (.invalidRole unknown.name)

/-- What a resolver answers, its failure being an error of routing. -/
def asked {α : Type} (answer : Except String α) : Except RoutingError α :=
  answer.mapError RoutingError.resolver

/-- The input of a call: campaign, wallet and role in this order, the first failure being the
error. -/
def input (r : Resolver) (call : InboundCall) (context : CallContext) :
    Except RoutingError RouteInput := do
  let campaignId ← asked (r.campaign call)
  let wallet ← asked (r.wallet call)
  let name ← asked (r.role call context)
  let actorRole ← parseRole name
  return {
    workspaceId := call.workspaceId
    campaignId
    actorRole
    walletId := wallet.map (·.walletId)
    estimatedCost := wallet.map (·.estimatedCost)
    currency := wallet.map (·.currency)
    inbound := call
    context }

end Resolver

/-- Routes a provider's call: nothing is asked of the collaborators until the resolver has found
everything. -/
def Surroundings.routeInbound (s : Surroundings) (r : Resolver) (call : InboundCall)
    (context : CallContext) : Routed Decision :=
  match r.input call context with
  | .error e => ⟨.error (.failed e), .empty⟩
  | .ok input => s.route input

/-- The router that rejects every call that names a workspace. -/
def rejectAll (call : InboundCall) : Except RoutingError CallAnswer :=
  if isBlank call.workspaceId then .error .missingWorkspace
  else .ok ⟨call.workspaceId, none, .reject, none⟩

end CallExchange
