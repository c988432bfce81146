import CallExchange.Call
import CallExchange.Text.Blank

/-!
# Routing decisions

A decision says what happens to a call and, for internal use, why. It has a target exactly when it
connects. A connect that an administrator forced has no reason.

## Main definitions

* `Action` — reject, connect to a target, hang up
* `Reason` — why, with the words for it
* `Decision` — action and reason for a call of a workspace and perhaps a campaign
-/

namespace CallExchange

/-- What happens to a call. -/
inductive Action where
  | reject
  | connect (target : String)
  | hangup
  deriving DecidableEq, Repr, Inhabited

namespace Action

/-- The kind of an action, without its target. -/
def kind : Action → CallAction
  | .reject => .reject
  | .connect _ => .connect
  | .hangup => .hangup

/-- The target of a connect. -/
def target? : Action → Option String
  | .connect target => some target
  | .reject | .hangup => none

end Action

/-- Why a decision was reached. -/
inductive Reason where
  | adminOverride
  | adminOverrideNoDestination
  | walletCurrencyMismatch
  | insufficientBalance
  | campaignIdRequired
  /-- The campaign's rules refused the call in these words. -/
  | campaignDenied (words : String)
  | selected
  | noEligibleDestination
  deriving DecidableEq, Repr, Inhabited

namespace Reason

/-- The words for a reason. -/
def words : Reason → String
  | .adminOverride => "admin_override"
  | .adminOverrideNoDestination => "admin_override_no_destination"
  | .walletCurrencyMismatch => "wallet_currency_mismatch"
  | .insufficientBalance => "insufficient_balance"
  | .campaignIdRequired => "campaign_id_required"
  | .campaignDenied words => words
  | .selected => "selected"
  | .noEligibleDestination => "no_eligible_destination"

/-- The reasons that have fixed words. -/
def fixed : List Reason :=
  [.adminOverride, .adminOverrideNoDestination, .walletCurrencyMismatch, .insufficientBalance,
    .campaignIdRequired, .selected, .noEligibleDestination]

/-- The reason of a refusal: the evaluation's words without the white space around them, or
`campaign_blocked` when it has none. -/
def denied (words : Option String) : Reason :=
  match words.map Text.trim with
  | some w => .campaignDenied (if w = "" then "campaign_blocked" else w)
  | none => .campaignDenied "campaign_blocked"

end Reason

/-- The outcome of routing one call. -/
structure Decision where
  workspaceId : String
  campaignId : Option String
  action : Action
  reason : Option Reason
  deriving DecidableEq, Repr, Inhabited

namespace Decision

/-- A connect without a reason. -/
def connect (workspaceId : String) (campaignId : Option String) (target : String) : Decision :=
  ⟨workspaceId, campaignId, .connect target, none⟩

/-- A reject. -/
def reject (workspaceId : String) (campaignId : Option String) (reason : Reason) : Decision :=
  ⟨workspaceId, campaignId, .reject, some reason⟩

/-- The decision with a reason. -/
def because (d : Decision) (reason : Reason) : Decision := { d with reason := some reason }

/-- The target of a connect. -/
def connectTo (d : Decision) : Option String := d.action.target?

/-- The call is rejected. -/
def isReject (d : Decision) : Bool := d.action.kind = .reject

/-- What the provider is told: the action and its target, without the reason. -/
def toAnswer (d : Decision) : CallAnswer := ⟨d.workspaceId, none, d.action.kind, d.connectTo⟩

end Decision

end CallExchange
