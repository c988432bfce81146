import CallExchange.Text.Unprintable
import CallExchange.Text.Extender

/-!
# Text shown in a message

A text that came from outside is shown in a message between quotes, so that a reader sees where it
starts and ends and can tell every character: quotes and backslashes are escaped, the common control
characters have a letter, and every other character that shows nothing by itself is written as its
code point.

## Main definitions

* `Quoted.show` — a text in quotes
* `Quoted.showOption` — a text that may be absent
-/

namespace CallExchange.Text.Quoted

/-- The code point of a character between braces, in lower-case hexadecimal without padding. -/
def codePoint (c : Char) : List Char :=
  ['\\', 'u', '{'] ++ Nat.toDigits 16 c.toNat ++ ['}']

/-- How a character appears between the quotes. -/
def showChar (c : Char) : List Char :=
  if c = '\x00' then ['\\', '0']
  else if c = '\t' then ['\\', 't']
  else if c = '\r' then ['\\', 'r']
  else if c = '\n' then ['\\', 'n']
  else if c = '\\' then ['\\', '\\']
  else if c = '"' then ['\\', '"']
  else if 0x20 ≤ c.toNat ∧ c.toNat < 0x7F then [c]
  else if isExtender c || isUnprintable c then codePoint c
  else [c]

/-- A text in quotes. -/
def «show» (s : String) : String := String.ofList ('"' :: s.toList.flatMap showChar ++ ['"'])

/-- A text that may be absent. -/
def showOption : Option String → String
  | none => "None"
  | some s => "Some(" ++ Quoted.show s ++ ")"

end CallExchange.Text.Quoted
