import CallExchange.Text.Blank

/-!
# Acting roles

A call or an administrative action is made under a role. Two roles are privileged: campaign and
wallet rules cannot block their calls. One role is hidden from the members of a workspace.

## Main definitions

* `Role` — the roles
* `Role.name` — the name by which other systems know a role
* `Role.ofName?`, `Role.parse` — the role of an exact name, and of a name with white space around it
* `Role.capabilities` — what a role may do

## Main results

* `Role.ofName?_eq_some_iff` — a role is found by its own name only
-/

namespace CallExchange

/-- The roles, in the order in which they are listed. -/
inductive Role where
  | owner
  | agent
  | analyst
  | finance
  | superAdmin
  | networkOperator
  deriving DecidableEq, Repr, Inhabited

/-- What a role may do when a call is routed. -/
structure Capabilities where
  /-- Campaign and wallet rules may not block calls made under the role. -/
  privilegedBypass : Bool
  /-- The role is not disclosed to the members of a workspace. -/
  hidden : Bool
  deriving DecidableEq, Repr

namespace Role

/-- All roles. -/
def all : List Role := [.owner, .agent, .analyst, .finance, .superAdmin, .networkOperator]

/-- The name of a role. -/
def name : Role → String
  | .owner => "owner"
  | .agent => "agent"
  | .analyst => "analyst"
  | .finance => "finance"
  | .superAdmin => "super_admin"
  | .networkOperator => "network_operator"

/-- What a role may do. -/
def capabilities : Role → Capabilities
  | .superAdmin => ⟨true, false⟩
  | .networkOperator => ⟨true, true⟩
  | .owner | .agent | .analyst | .finance => ⟨false, false⟩

/-- Campaign and wallet rules may not block calls made under the role. -/
def isPrivileged (r : Role) : Bool := r.capabilities.privilegedBypass

/-- The role of a name. -/
def ofName? (s : String) : Option Role := all.find? fun r => r.name = s

/-- A role is found by its own name only. -/
theorem ofName?_eq_some_iff {s : String} {r : Role} : ofName? s = some r ↔ s = r.name := by
  constructor
  · intro h
    have := List.find?_some h
    simp only [decide_eq_true_eq] at this
    exact this.symm
  · rintro rfl
    cases r <;> decide

/-- A name that no role has. -/
structure Unknown where
  name : String
  deriving DecidableEq, Repr

/-- The role of a name that may have white space around it. -/
def parse (s : String) : Except Unknown Role :=
  match ofName? (Text.trim s) with
  | some r => .ok r
  | none => .error ⟨Text.trim s⟩

end Role

end CallExchange
