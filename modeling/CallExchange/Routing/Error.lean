import CallExchange.Ledger.Error
import CallExchange.Text.Quoted

/-!
# What can go wrong in routing

A policy that rejects a call is not an error. Errors are missing identifiers, collaborators that are
not there, overrides that are not set up properly, and failures of the collaborators.

## Main definitions

* `RoutingError` — the causes, with `RoutingError.message` and `RoutingError.isConfiguration`
-/

namespace CallExchange

open Text

/-- A collaborator that a request needs. -/
inductive Collaborator where
  | walletService
  | campaignEvaluator
  deriving DecidableEq, Repr, Inhabited

/-- The words for a collaborator. -/
def Collaborator.words : Collaborator → String
  | .walletService => "wallet service"
  | .campaignEvaluator => "campaign evaluator"

/-- A part of the wallet context that an estimated cost needs. -/
inductive WalletPart where
  | walletId
  | currency
  deriving DecidableEq, Repr, Inhabited

/-- The words for a part of the wallet context. -/
def WalletPart.words : WalletPart → String
  | .walletId => "wallet_id"
  | .currency => "currency"

/-- What can go wrong when a call is routed. -/
inductive RoutingError where
  | missingWorkspace
  /-- The acting role has a name that no role has. -/
  | invalidRole (name : String)
  | notConfigured (what : Collaborator)
  | missingWalletContext (part : WalletPart)
  | emptyOverrideTarget (overrideId : Option String)
  | overrideScopeMismatch (overrideId : Option String)
  | overrideStore (words : String)
  | campaign (words : String)
  | resolver (words : String)
  | wallet (cause : WalletError)
  deriving DecidableEq, Repr, Inhabited

/-- The message about a name that no role has. -/
def Role.Unknown.message (u : Role.Unknown) : String := "unknown role: " ++ Quoted.show u.name

namespace RoutingError

/-- The message of an error. -/
def message : RoutingError → String
  | .missingWorkspace => "workspace_id required"
  | .invalidRole name => "invalid argument: " ++ Role.Unknown.message ⟨name⟩
  | .notConfigured what => what.words ++ " not configured"
  | .missingWalletContext part => part.words ++ " required when estimated cost is provided"
  | .emptyOverrideTarget overrideId =>
    "override " ++ Quoted.showOption overrideId ++ " has an empty connect target"
  | .overrideScopeMismatch overrideId =>
    "override " ++ Quoted.showOption overrideId ++
      " does not match the requested workspace/campaign"
  | .overrideStore words => "override store failed: " ++ words
  | .campaign words => "campaign evaluation failed: " ++ words
  | .resolver words => "route resolution failed: " ++ words
  | .wallet cause => "balance lookup failed: " ++ cause.message

/-- The error is a mistake in how the exchange is set up, not in data or infrastructure. -/
def isConfiguration : RoutingError → Bool
  | .notConfigured _ | .missingWalletContext _ | .emptyOverrideTarget _
  | .overrideScopeMismatch _ => true
  | .missingWorkspace | .invalidRole _ | .overrideStore _ | .campaign _ | .resolver _
  | .wallet _ => false

end RoutingError

end CallExchange
