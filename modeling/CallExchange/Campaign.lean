/-!
# Campaign rules

A campaign's rules are evaluated for a call. The evaluation allows the call or refuses it, perhaps
with a reason, and lists where the call may go, each destination with a weight.

## Main definitions

* `Destination` — a dial target with a weight
* `Evaluation` — the outcome of a campaign's rules
-/

namespace CallExchange

/-- A dial target. Only a positive weight makes it eligible. -/
structure Destination where
  target : String
  weight : Int32
  deriving DecidableEq, Repr, Inhabited

/-- The outcome of a campaign's rules for one call. -/
structure Evaluation where
  allowed : Bool
  reason : Option String
  destinations : List Destination
  deriving DecidableEq, Repr, Inhabited

/-- A refusal with a reason. -/
def Evaluation.deny (reason : String) : Evaluation := ⟨false, some reason, []⟩

end CallExchange
