import CallExchange.Json.Basic
import CallExchange.Json.Literal

/-!
# Reading structured data from text

The grammar is strict: no comments, no comma before a closing bracket, no mark at the start, and
nothing but white space around the value. Four characters are white space here: space, tab, line
feed and carriage return.

## Main definitions

* `Node.value`, `Node.items`, `Node.members` — a value, the rest of a list, the rest of an object
* `Node.ofText` — the tree of a whole text
-/

namespace CallExchange.Node

/-- The white space of the format. -/
def isGap (c : Char) : Bool := c = ' ' || c = '\t' || c = '\n' || c = '\r'

/-- A text without the white space at its start. -/
def skip (cs : List Char) : List Char := cs.dropWhile isGap

/-- A character that can occur in a number. -/
def isNumberChar (c : Char) : Bool :=
  c.isDigit || c = '-' || c = '+' || c = '.' || c = 'e' || c = 'E'

/-- The text of a literal after its opening quote, if it names whole characters, and the rest. -/
def text? (cs : List Char) : Option (Option String × List Char) :=
  (Json.Literal.scan cs).map fun (pieces, rest) =>
    ((Json.Literal.join pieces).map String.ofList, rest)

mutual

/-- One value and what follows it. Every level of nesting and every item costs one unit of `fuel`. -/
def value (fuel : Nat) (cs : List Char) : Option (Node × List Char) :=
  match fuel with
  | 0 => none
  | fuel + 1 =>
    match skip cs with
    | '{' :: rest =>
      match skip rest with
      | '}' :: rest => some (.object [], rest)
      | rest => (members fuel rest).map fun (ms, rest) => (.object ms, rest)
    | '[' :: rest =>
      match skip rest with
      | ']' :: rest => some (.array [], rest)
      | rest => (items fuel rest).map fun (ns, rest) => (.array ns, rest)
    | '"' :: rest => (text? rest).map fun (s, rest) => (.string s, rest)
    | 't' :: 'r' :: 'u' :: 'e' :: rest => some (.bool true, rest)
    | 'f' :: 'a' :: 'l' :: 's' :: 'e' :: rest => some (.bool false, rest)
    | 'n' :: 'u' :: 'l' :: 'l' :: rest => some (.null, rest)
    | cs =>
      (Numeral.read? (cs.takeWhile isNumberChar)).map fun n =>
        (.number n, cs.dropWhile isNumberChar)

/-- The items of a list up to its closing bracket; at least one is due. -/
def items (fuel : Nat) (cs : List Char) : Option (List Node × List Char) :=
  match fuel with
  | 0 => none
  | fuel + 1 =>
    match value fuel cs with
    | none => none
    | some (n, rest) =>
      match skip rest with
      | ',' :: rest => (items fuel rest).map fun (ns, rest) => (n :: ns, rest)
      | ']' :: rest => some ([n], rest)
      | _ => none

/-- The members of an object up to its closing brace; at least one is due. -/
def members (fuel : Nat) (cs : List Char) : Option (List (Option String × Node) × List Char) :=
  match fuel with
  | 0 => none
  | fuel + 1 =>
    match skip cs with
    | '"' :: rest =>
      match text? rest with
      | none => none
      | some (name, rest) =>
        match skip rest with
        | ':' :: rest =>
          match value fuel rest with
          | none => none
          | some (n, rest) =>
            match skip rest with
            | ',' :: rest => (members fuel rest).map fun (ms, rest) => ((name, n) :: ms, rest)
            | '}' :: rest => some ([(name, n)], rest)
            | _ => none
        | _ => none
    | _ => none

end

/-- The tree of a text, if the text is one value. Each unit of fuel spent reads a character, up to
a factor of two, so the fuel given never runs out. -/
def ofText (s : String) : Option Node :=
  let cs := s.toList
  match value (2 * cs.length + 2) cs with
  | some (n, rest) => if (skip rest).isEmpty then some n else none
  | none => none

end CallExchange.Node
