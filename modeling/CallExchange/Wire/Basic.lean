import CallExchange.Json.Members
import CallExchange.Role
import CallExchange.Wallet

/-!
# The written form of values

How the values that records are made of are written as structured data: names for choices, text for
instants and identifiers, null for what is absent.

## Main definitions

* `Json.ofAmount`, `Json.ofInstant`, `Json.ofUuid`, `Json.orNull` — values
* `Json.unlessAbsent` — a member that is left out when its value is absent
* `name` and `ofNode?` of `WalletStatus`, `EntryType`, `AdminActionType`
-/

namespace CallExchange

namespace Json

/-- An amount in minor units. -/
def ofAmount (a : Minor) : Json := .int a.toInt

/-- A 64-bit word. -/
def ofWord (w : UInt64) : Json := .int w.toNat

/-- An instant as text. -/
def ofInstant (t : Instant) : Json := .string t.write

/-- An identifier as text. -/
def ofUuid (u : Uuid) : Json := .string u.write

/-- A value, or null if it is absent. -/
def orNull {α : Type} (toJson : α → Json) : Option α → Json
  | none => .null
  | some a => toJson a

/-- A member that is left out when its value is absent. -/
def unlessAbsent {α : Type} (name : String) (toJson : α → Json) : Option α → List (String × Json)
  | none => []
  | some a => [(name, toJson a)]

/-- A list of values. -/
def ofList {α : Type} (toJson : α → Json) (as : List α) : Json := .array (as.map toJson)

end Json

/-- The role of a tree. -/
def Role.ofNode? (n : Node) : Option Role := n.toChoice Role.all Role.name

namespace WalletStatus

/-- The name of a status. -/
def name : WalletStatus → String
  | .active => "active"
  | .disabled => "disabled"

/-- The status of a tree. -/
def ofNode? (n : Node) : Option WalletStatus := n.toChoice [.active, .disabled] name

end WalletStatus

namespace EntryType

/-- The name of an entry's type. -/
def name : EntryType → String
  | .credit => "credit"
  | .debit => "debit"
  | .hold => "hold"
  | .release => "release"

/-- The type of a tree. -/
def ofNode? (n : Node) : Option EntryType := n.toChoice [.credit, .debit, .hold, .release] name

end EntryType

namespace AdminActionType

/-- The name of an administrative action. -/
def name : AdminActionType → String
  | .adjustBalance => "adjust_balance"
  | .freeze => "freeze"
  | .unfreeze => "unfreeze"

/-- The administrative action of a tree. -/
def ofNode? (n : Node) : Option AdminActionType :=
  n.toChoice [.adjustBalance, .freeze, .unfreeze] name

end AdminActionType

end CallExchange
