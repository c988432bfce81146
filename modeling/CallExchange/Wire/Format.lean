import CallExchange.Json.Reader
import CallExchange.Json.Writer
import CallExchange.Wire.Call
import CallExchange.Wire.Wallet

/-!
# Records as text

A value is written as the text of its data, and read from the tree of a text. A text may be one that
the writer would never produce: a list in place of an object, members in another order or unknown to
the record, an instant with an offset. `Wire.Kind` lists the values that are both written and read.

## Main definitions

* `Format` — how values of a type are written as data and read from trees
* `Format.write`, `Format.read?` — the same as text
* `Wire.Kind` — the kinds of values that are exchanged as text, with their formats
-/

namespace CallExchange

/-- How values of a type are written as data and read from trees. -/
structure Format (α : Type) where
  toJson : α → Json
  ofNode? : Node → Option α

namespace Format

variable {α : Type} (f : Format α)

/-- The text of a value. -/
def write (a : α) : String := (f.toJson a).toText

/-- The value that a text says. -/
def read? (s : String) : Option α := (Node.ofText s).bind f.ofNode?

end Format

namespace Wire

/-- The kinds of values that are exchanged as text. -/
inductive Kind where
  | call
  | answer
  | override
  | evaluation
  | destination
  | role
  | wallet
  | walletStatus
  | entry
  | entryType
  | balance
  | adminAction
  | posting
  | adminCredit
  deriving DecidableEq, Repr

namespace Kind

/-- The values of a kind. -/
def Value : Kind → Type
  | call => InboundCall
  | answer => CallAnswer
  | override => Override
  | evaluation => Evaluation
  | destination => Destination
  | role => Role
  | wallet => Wallet
  | walletStatus => WalletStatus
  | entry => Entry
  | entryType => EntryType
  | balance => Balance
  | adminAction => AdminAction
  | posting => PostingRequest
  | adminCredit => AdminCreditRequest

/-- How the values of a kind are written and read. A choice is written as its name. -/
def format : (k : Kind) → Format k.Value
  | call => ⟨InboundCall.toJson, InboundCall.ofNode?⟩
  | answer => ⟨CallAnswer.toJson, CallAnswer.ofNode?⟩
  | override => ⟨Override.toJson, Override.ofNode?⟩
  | evaluation => ⟨Evaluation.toJson, Evaluation.ofNode?⟩
  | destination => ⟨Destination.toJson, Destination.ofNode?⟩
  | role => ⟨fun r => .string r.name, Role.ofNode?⟩
  | wallet => ⟨Wallet.toJson, Wallet.ofNode?⟩
  | walletStatus => ⟨fun w => .string w.name, WalletStatus.ofNode?⟩
  | entry => ⟨Entry.toJson, Entry.ofNode?⟩
  | entryType => ⟨fun t => .string t.name, EntryType.ofNode?⟩
  | balance => ⟨Balance.toJson, Balance.ofNode?⟩
  | adminAction => ⟨AdminAction.toJson, AdminAction.ofNode?⟩
  | posting => ⟨PostingRequest.toJson, PostingRequest.ofNode?⟩
  | adminCredit => ⟨AdminCreditRequest.toJson, AdminCreditRequest.ofNode?⟩

end Kind

end Wire

end CallExchange
