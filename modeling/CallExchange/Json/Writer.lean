import CallExchange.Json.Basic
import CallExchange.Json.Literal
import CallExchange.Text.Decimal

/-!
# Writing structured data as text

Data is written without white space, members in the order in which the object lists them.

## Main definitions

* `Json.write` — the characters of a value
* `Json.toText` — the same as a text
-/

namespace CallExchange.Json

open Text

/-- The characters of a value. -/
def write : Json → List Char
  | .null => ['n', 'u', 'l', 'l']
  | .bool true => ['t', 'r', 'u', 'e']
  | .bool false => ['f', 'a', 'l', 's', 'e']
  | .int n => Decimal.ofInt n
  | .string s => Literal.write s
  | .array [] => ['[', ']']
  | .array (j :: js) => '[' :: (j.write ++ writeItems js)
  | .object [] => ['{', '}']
  | .object ((name, j) :: ms) => '{' :: (Literal.write name ++ ':' :: (j.write ++ writeMembers ms))
where
  /-- The items after the first one, and the closing bracket. -/
  writeItems : List Json → List Char
    | [] => [']']
    | j :: js => ',' :: (j.write ++ writeItems js)
  /-- The members after the first one, and the closing brace. -/
  writeMembers : List (String × Json) → List Char
    | [] => ['}']
    | (name, j) :: ms => ',' :: (Literal.write name ++ ':' :: (j.write ++ writeMembers ms))

/-- The text of a value. -/
def toText (j : Json) : String := String.ofList j.write

end CallExchange.Json
