import CallExchange.Json.Numeral

/-!
# Values of structured data

`Json` is the type of free-form data attached to a record: null, truth values, whole numbers of 64
bits (signed or unsigned), texts, lists, and objects whose members have names.

`Node` is what a text denotes before anyone asks for a value. A text may hold numbers that are no
64-bit integers and names of characters that do not exist; both are well-formed and may stand where
nothing reads them, so a `Node` keeps them without a value. A reader of a typed field asks a node
for the value it wants.

Free-form data is read from a sound tree: one whose names and texts are whole and whose numbers are
not too great, in every part. An object lists its members in the order of their names; where a name
is given twice, the last value stands, and the earlier ones need only be sound. Data holds no other
numbers than 64-bit integers, so a value that stands may hold no others either.

## Main definitions

* `Json` — free-form data
* `Node` — the syntax tree of a text
* `Json.toNode` — data as a tree
* `Node.isSound` — names, texts and numbers can be read, within a limit on nesting
* `Json.ofNode` — the data of a sound tree
* `Json.Normal` — objects list their members in the order of their names, each name once
-/

namespace CallExchange

/-- Free-form data. -/
inductive Json where
  | null
  | bool (b : Bool)
  | int (n : Int)
  | string (s : String)
  | array (items : List Json)
  | object (members : List (String × Json))
  deriving Repr, Inhabited

/-- The syntax tree of a text. -/
inductive Node where
  | null
  | bool (b : Bool)
  | number (n : Numeral)
  /-- A text, with its characters unless it names half of a character. -/
  | string (value : Option String)
  | array (items : List Node)
  | object (members : List (Option String × Node))
  deriving Repr, Inhabited

/-- Every name and every text of a tree is whole, no number is too great, and lists and objects nest
at most `depth` deep. -/
def Node.isSound (depth : Nat) : Node → Bool
  | .null | .bool _ => true
  | .number n => n ≠ .excessive
  | .string value => value.isSome
  | .array items =>
    match depth with
    | 0 => false
    | depth + 1 => allSound depth items
  | .object members =>
    match depth with
    | 0 => false
    | depth + 1 => membersSound depth members
where
  allSound (depth : Nat) : List Node → Bool
    | [] => true
    | n :: ns => n.isSound depth && allSound depth ns
  membersSound (depth : Nat) : List (Option String × Node) → Bool
    | [] => true
    | (name, n) :: rest => name.isSome && n.isSound depth && membersSound depth rest

namespace Json

/-- A member added in the order of names, in place of an earlier one of its name. -/
def insertMember (name : String) (j : Json) : List (String × Json) → List (String × Json)
  | [] => [(name, j)]
  | (other, k) :: rest =>
    if name = other then (name, j) :: rest
    else if name < other then (name, j) :: (other, k) :: rest
    else (other, k) :: insertMember name j rest

/-- Members in the order of their names, the last one of each name. -/
def sortMembers (members : List (String × Json)) : List (String × Json) :=
  members.foldl (fun acc m => insertMember m.1 m.2 acc) []

/-- Data as a tree. -/
def toNode : Json → Node
  | .null => .null
  | .bool b => .bool b
  | .int n => .number (.whole n)
  | .string s => .string (some s)
  | .array items => .array (nodes items)
  | .object members => .object (namedNodes members)
where
  nodes : List Json → List Node
    | [] => []
    | j :: js => j.toNode :: nodes js
  namedNodes : List (String × Json) → List (Option String × Node)
    | [] => []
    | (name, j) :: rest => (some name, j.toNode) :: namedNodes rest

/-- The data of a tree, if the values that stand hold no numbers but 64-bit integers. Of the members
of one name the last one stands, and the others are not looked at. -/
def held? : Node → Option Json
  | .null => some .null
  | .bool b => some (.bool b)
  | .number (.whole n) => some (.int n)
  | .number .inexact | .number .excessive => none
  | .string value => value.map .string
  | .array items => (values items).map .array
  | .object members => (namedValues members).map fun ms => .object (sortMembers ms)
where
  values : List Node → Option (List Json)
    | [] => some []
    | n :: ns =>
      match held? n, values ns with
      | some j, some js => some (j :: js)
      | _, _ => none
  namedValues : List (Option String × Node) → Option (List (String × Json))
    | [] => some []
    | (name, n) :: rest =>
      if rest.any fun m => m.1 = name then namedValues rest
      else
        match name, held? n, namedValues rest with
        | some name, some j, some ms => some ((name, j) :: ms)
        | _, _, _ => none

/-- The data of a sound tree in which lists and objects nest at most `depth` deep. -/
def ofNode (depth : Nat) (n : Node) : Option Json := if n.isSound depth then held? n else none

/-- Objects list their members in strictly ascending order of names, and numbers fit 64 bits. -/
def Normal : Json → Prop
  | .null | .bool _ | .string _ => True
  | .int n => Numeral.InRange n
  | .array items => allNormal items
  | .object members => (members.map (·.1)).Pairwise (· < ·) ∧ membersNormal members
where
  allNormal : List Json → Prop
    | [] => True
    | j :: js => j.Normal ∧ allNormal js
  membersNormal : List (String × Json) → Prop
    | [] => True
    | (_, j) :: rest => j.Normal ∧ membersNormal rest

/-- How deep lists and objects nest. -/
def depth : Json → Nat
  | .null | .bool _ | .int _ | .string _ => 0
  | .array items => depthOfList items + 1
  | .object members => depthOfMembers members + 1
where
  depthOfList : List Json → Nat
    | [] => 0
    | j :: js => max j.depth (depthOfList js)
  depthOfMembers : List (String × Json) → Nat
    | [] => 0
    | (_, j) :: rest => max j.depth (depthOfMembers rest)

end Json

end CallExchange
