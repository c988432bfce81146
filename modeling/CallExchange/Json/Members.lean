import CallExchange.Json.Basic
import CallExchange.Time.Rfc3339
import CallExchange.Uuid

/-!
# Reading records from trees

A record is read from an object by the names of its members, or from a list by their order. Members
that the record does not know are ignored, a known one that is given twice is refused, and a list
may not be longer than the record. A member that may be absent may also be null.

## Main definitions

* `Node.fields` — the members of a record, by name
* `Node.required`, `Node.optional`, `Node.defaulted` — one member
* `Node.toText`, `Node.toInt64`, `Node.toList`, … — values of the basic types
-/

namespace CallExchange.Node

/-- Members that a record knows, with their names. -/
abbrev Fields := List (String × Node)

/-- The members of an object whose every name is whole, in the order of the text. -/
def wholeNames : List (Option String × Node) → Option Fields
  | [] => some []
  | (none, _) :: _ => none
  | (some name, n) :: rest => (wholeNames rest).map ((name, n) :: ·)

theorem wholeNames_map (members : Fields) :
    wholeNames (members.map fun m => (some m.1, m.2)) = some members := by
  induction members with
  | nil => rfl
  | cons m rest ih =>
    rw [List.map_cons, wholeNames, ih]
    rfl

/-- The members of a record with the given names: those of an object, each at most once, or the
items of a list in the order of the names. -/
def fields (names : List String) : Node → Option Fields
  | .array items => if items.length ≤ names.length then some (names.zip items) else none
  | .object members =>
    match wholeNames members with
    | none => none
    | some all =>
      let known := all.filter fun m => names.contains m.1
      if (known.map (·.1)).Nodup then some known else none
  | .null | .bool _ | .number _ | .string _ => none

/-- A member that must be there. -/
def required {α : Type} (read : Node → Option α) (name : String) (fs : Fields) : Option α :=
  (fs.lookup name).bind read

/-- A member that may be absent or null. -/
def optional {α : Type} (read : Node → Option α) (name : String) (fs : Fields) :
    Option (Option α) :=
  match fs.lookup name with
  | none => some none
  | some .null => some none
  | some n => (read n).map some

/-- A member that may be absent, but not null. -/
def defaulted {α : Type} (read : Node → Option α) (default : α) (name : String) (fs : Fields) :
    Option α :=
  match fs.lookup name with
  | none => some default
  | some n => read n

/-! ### Basic types -/

/-- A text of whole characters. -/
def toText : Node → Option String
  | .string value => value
  | _ => none

/-- A truth value. -/
def toBool : Node → Option Bool
  | .bool b => some b
  | _ => none

/-- A 64-bit integer, signed or unsigned. -/
def toInt : Node → Option Int
  | .number (.whole n) => some n
  | _ => none

/-- A signed 64-bit integer. -/
def toInt64 (n : Node) : Option Int64 :=
  n.toInt.bind fun i =>
    if Int64.minValue.toInt ≤ i ∧ i ≤ Int64.maxValue.toInt then some (Int64.ofInt i) else none

/-- A signed 32-bit integer. -/
def toInt32 (n : Node) : Option Int32 :=
  n.toInt.bind fun i =>
    if Int32.minValue.toInt ≤ i ∧ i ≤ Int32.maxValue.toInt then some (Int32.ofInt i) else none

/-- An unsigned 64-bit integer. -/
def toWord (n : Node) : Option UInt64 :=
  n.toInt.bind fun i =>
    if 0 ≤ i ∧ i.toNat < UInt64.size then some (UInt64.ofNat i.toNat) else none

/-- A list of values of one type. -/
def toList {α : Type} (read : Node → Option α) : Node → Option (List α)
  | .array items => readAll items
  | _ => none
where
  readAll : List Node → Option (List α)
    | [] => some []
    | n :: ns =>
      match read n, readAll ns with
      | some a, some as => some (a :: as)
      | _, _ => none

/-- The name of a choice: a text, or an object whose one member has that name and is null. -/
def toName : Node → Option String
  | .string value => value
  | .object [(name, .null)] => name
  | _ => none

/-- A value among several, by its name. -/
def toChoice {α : Type} (choices : List α) (name : α → String) (n : Node) : Option α :=
  n.toName.bind fun s => choices.find? fun a => name a = s

/-- An instant as RFC 3339 text. -/
def toInstant (n : Node) : Option Instant := n.toText.bind Instant.read?

/-- An identifier in one of its written forms. -/
def toUuid (n : Node) : Option Uuid := n.toText.bind Uuid.read?

/-- How deep the brackets of a text may nest. -/
def maxDepth : Nat := 127

/-- Free-form data in a member of an outermost record. -/
def toData (n : Node) : Option Json := Json.ofNode (maxDepth - 1) n

end CallExchange.Node
