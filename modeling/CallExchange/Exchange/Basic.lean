import CallExchange.Audit.Trail
import CallExchange.Ledger.Script
import CallExchange.Random.Source
import CallExchange.Routing.Inbound

/-!
# The exchange

An exchange is a clock, a ledger, a shelf of overrides, a table of campaigns, a random source and an
audit trail, together with what is connected to its routing. The ledger and the override stage hand
their audit events to the same sink.

## Main definitions

* `Exchange` — the state
* `IdSupply` — where fresh identifiers come from
* `OverrideSupply`, `BalanceSupply` — what routing asks for overrides and balances
* `Exchange.surroundings` — the exchange as routing sees it
-/

namespace CallExchange

/-- Fresh identifiers: those of rows that an operation of the ledger writes by the number of the
operation, and those of audit records by the number of records before them. -/
structure IdSupply where
  entry : Nat → Uuid
  action : Nat → Uuid
  record : Nat → Uuid

/-- What the override stage asks. -/
inductive OverrideSupply where
  /-- The shelf of the exchange. -/
  | shelf
  /-- Always the same answer. -/
  | fixed (o : Option Override)
  | failing (words : String)
  deriving Repr, Inhabited

/-- What the balance gate asks. -/
inductive BalanceSupply where
  /-- The ledger of the exchange. -/
  | ledger
  | failing (e : WalletError)
  deriving Repr, Inhabited

/-- Campaigns with what their rules say: an evaluation, or the words of a failure. -/
abbrev CampaignTable := List (String × Except String Evaluation)

namespace CampaignTable

/-- The table with a campaign's rules in their place. -/
def set (t : CampaignTable) (campaignId : String) (rules : Except String Evaluation) :
    CampaignTable :=
  (campaignId, rules) :: t.filter fun row => row.1 ≠ campaignId

/-- What the rules of a campaign say. A campaign that is not in the table is refused. -/
def evaluate (t : CampaignTable) : CampaignEvaluator := fun _ campaignId _ =>
  match t.lookup campaignId with
  | some rules => rules
  | none => .ok (.deny "campaign_not_found")

end CampaignTable

/-- The state of an exchange. -/
structure Exchange where
  now : Instant
  ledger : Ledger
  shelf : Shelf
  campaigns : CampaignTable
  source : Random.Source
  trail : AuditTrail
  /-- What routing asks for overrides; absent, there is no override stage. -/
  overrideSupply : Option OverrideSupply
  /-- What routing asks for balances. -/
  balanceSupply : Option BalanceSupply
  /-- Routing may ask the table of campaigns. -/
  evaluates : Bool
  ids : IdSupply
  /-- The number of operations of the ledger so far. -/
  operations : Nat

/-- The balance of a wallet as a reader of the ledger sees it. -/
def Ledger.read (l : Ledger) : BalanceReader := fun key =>
  match (Ledger.balance key).run (.of l) with
  | .ok b _ => .ok b
  | .error halt _ => .error halt

namespace Exchange

/-- The answer to a lookup of the override in force. -/
def lookup (x : Exchange) : OverrideSupply → OverrideLookup
  | .shelf => fun workspaceId campaignId _ now => .ok (x.shelf.find? workspaceId campaignId now)
  | .fixed o => fun _ _ _ _ => .ok o
  | .failing words => fun _ _ _ _ => .error words

/-- The answer to a question for a balance. -/
def reader (x : Exchange) : BalanceSupply → BalanceReader
  | .ledger => x.ledger.read
  | .failing e => fun _ => .error (.failed e)

/-- The exchange as routing sees it. -/
def surroundings (x : Exchange) : Surroundings where
  now := x.now
  overrides := x.overrideSupply.map x.lookup
  balances := x.balanceSupply.map x.reader
  campaigns := if x.evaluates then some x.campaigns.evaluate else none
  answer := x.source.answer

/-- The stamp of the operation of the ledger that comes next. -/
def stamp (x : Exchange) : Stamp := ⟨x.now, x.ids.entry x.operations, x.ids.action x.operations⟩

end Exchange

end CallExchange
