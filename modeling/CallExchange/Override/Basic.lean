import CallExchange.Call
import CallExchange.Json.Basic

/-!
# Routing overrides

An override forces the calls of a workspace, or of one of its campaigns, to a target until it
expires. At its expiry it is as if it did not exist.

## Main definitions

* `Override` — a forced target with its scope and expiry
* `Override.IsActive`, `Override.Covers` — in force at a time, and for a request
-/

namespace CallExchange

/-- A forced target for the calls of a workspace. -/
structure Override where
  workspaceId : String
  /-- The one campaign it applies to; absent, it applies to the whole workspace. -/
  campaignId : Option String
  overrideId : Option String
  connectTo : String
  expiresAt : Instant
  metadata : Option Json
  deriving Repr

namespace Override

/-- The override has not expired: its expiry lies strictly after the time. -/
def IsActive (o : Override) (now : Instant) : Prop := now < o.expiresAt

instance (o : Override) (now : Instant) : Decidable (o.IsActive now) :=
  inferInstanceAs (Decidable (now < o.expiresAt))

/-- The override is of the workspace, and of the campaign if it names one. -/
def Covers (o : Override) (workspaceId : String) (campaignId : Option String) : Prop :=
  o.workspaceId = workspaceId ∧ (o.campaignId = none ∨ o.campaignId = campaignId)

instance (o : Override) (workspaceId : String) (campaignId : Option String) :
    Decidable (o.Covers workspaceId campaignId) :=
  inferInstanceAs
    (Decidable (o.workspaceId = workspaceId ∧ (o.campaignId = none ∨ o.campaignId = campaignId)))

end Override

end CallExchange
