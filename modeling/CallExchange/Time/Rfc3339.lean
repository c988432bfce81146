import CallExchange.Text.Blank
import CallExchange.Text.Decimal
import CallExchange.Time.Instant

/-!
# Instants as RFC 3339 text

An instant is written in universal time with a `Z`. The fraction of a second has 0, 3, 6 or 9
digits, the fewest that are exact. A year outside 0 to 9999 is written with its sign.

Reading is more generous. The offset is required and may be `Z`, `UTC`, or a sign, hours and
minutes; a space may stand for the `T`; fields may be short of digits; white space may stand between
the fields of the date and of the time, and around the whole offset; a fraction may have any number
of digits, of which nine count.

## Main definitions

* `Instant.write` — the text of an instant
* `Instant.read?` — the instant that a text names
-/

namespace CallExchange.Instant

open Text

/-! ### Writing -/

/-- A number with zeros before it up to a width. -/
def padded (width n : Nat) : List Char :=
  let digits := Decimal.ofNat n
  List.replicate (width - digits.length) '0' ++ digits

/-- Four digits, or a sign and at least four digits when the year needs more or is negative. -/
def writeYear (year : Int) : List Char :=
  if 0 ≤ year ∧ year ≤ 9999 then padded 4 year.toNat
  else if year < 0 then '-' :: padded 4 year.natAbs
  else '+' :: padded 4 year.natAbs

/-- The fraction of a second, in as many groups of three digits as it needs. -/
def writeFraction (nano : Nat) : List Char :=
  if nano = 0 then []
  else if nano % 1000000 = 0 then '.' :: padded 3 (nano / 1000000)
  else if nano % 1000 = 0 then '.' :: padded 6 (nano / 1000)
  else '.' :: padded 9 nano

/-- The characters of an instant. -/
def chars (t : Instant) : List Char :=
  writeYear t.date.year ++ '-' :: padded 2 t.date.month ++ '-' :: padded 2 t.date.day ++
    'T' :: padded 2 t.hour ++ ':' :: padded 2 t.minute ++ ':' :: padded 2 t.second ++
    writeFraction t.nano ++ ['Z']

/-- The text of an instant. -/
def write (t : Instant) : String := String.ofList t.chars

/-! ### Reading -/

/-- A number of one to `width` digits, and what follows it. -/
def number? (width : Nat) (cs : List Char) : Option (Nat × List Char) :=
  let digits := (cs.take width).takeWhile Char.isDigit
  if digits.isEmpty then none else some (Decimal.value digits, cs.drop digits.length)

/-- A number of at most two digits after white space. -/
def field? (cs : List Char) : Option (Nat × List Char) := number? 2 (trimStart cs)

/-- A year: with a sign any number of digits, else at most four. -/
def year? (cs : List Char) : Option (Int × List Char) :=
  match trimStart cs with
  | '-' :: cs => (number? cs.length cs).map fun (n, rest) => (-(n : Int), rest)
  | '+' :: cs => (number? cs.length cs).map fun (n, rest) => ((n : Int), rest)
  | cs => (number? 4 cs).map fun (n, rest) => ((n : Int), rest)

/-- What follows a separator that white space may precede. -/
def after? (separator : Char) (cs : List Char) : Option (List Char) :=
  match trimStart cs with
  | c :: rest => if c = separator then some rest else none
  | [] => none

/-- A date and what follows it. -/
def date? (cs : List Char) : Option (Calendar.Date × List Char) := do
  let (year, cs) ← year? cs
  let cs ← after? '-' cs
  let (month, cs) ← field? cs
  let cs ← after? '-' cs
  let (day, cs) ← field? cs
  return (⟨year, month, day⟩, cs)

/-- The nanoseconds of a fraction of at most nine digits that count; no fraction is zero. -/
def fraction? : List Char → Option (Nat × List Char)
  | '.' :: cs =>
    let digits := (cs.take 9).takeWhile Char.isDigit
    if digits.isEmpty then none
    else
      let padded := digits ++ List.replicate (9 - digits.length) '0'
      some (Decimal.value padded, cs.dropWhile Char.isDigit)
  | cs => some (0, cs)

/-- A digit's value, if the character is one. -/
def digit? (c : Char) : Option Nat := if c.isDigit then some (c.toNat - '0'.toNat) else none

/-- Two digits and what follows them. -/
def pair? : List Char → Option (Nat × List Char)
  | a :: b :: rest =>
    match digit? a, digit? b with
    | some a, some b => some (10 * a + b, rest)
    | _, _ => none
  | _ => none

/-- Hours and minutes of an offset, with colons or white space between them or nothing. -/
def offsetSize? (cs : List Char) : Option (Nat × List Char) := do
  let (hours, cs) ← pair? cs
  let (minutes, cs) ← pair? (cs.dropWhile fun c => c = ':' || isSpace c)
  if hours < 24 ∧ minutes < 60 then some (hours * 60 + minutes, cs) else none

/-- The minus sign of mathematics, which an offset may have. -/
def minusSign : Char := '\u2212'

/-- An offset in minutes east of universal time, and what follows it. -/
def offset? : List Char → Option (Int × List Char)
  | [] => none
  | c :: cs =>
    if c = 'Z' ∨ c = 'z' then some (0, cs)
    else if (c :: cs.take 2).map Char.toUpper = ['U', 'T', 'C'] then some (0, cs.drop 2)
    else if c = '+' then (offsetSize? cs).map fun (n, rest) => ((n : Int), rest)
    else if c = '-' ∨ c = minusSign then
      (offsetSize? cs).map fun (n, rest) => (-(n : Int), rest)
    else none

/-- The mark between date and time. -/
def mark? : List Char → Option (List Char)
  | 'T' :: cs | 't' :: cs | ' ' :: cs => some cs
  | _ => none

/-- The instant that a list of characters names. -/
def ofChars? (cs : List Char) : Option Instant := do
  let (date, cs) ← date? cs
  let cs ← mark? cs
  let (hour, cs) ← field? cs
  let cs ← after? ':' cs
  let (minute, cs) ← field? cs
  let cs ← after? ':' cs
  let (second, cs) ← field? cs
  let (nano, cs) ← fraction? cs
  let (minutes, cs) ← offset? (trimStart cs)
  if (trimStart cs).isEmpty then ofLocal? date hour minute second nano minutes else none

/-- The instant that a text names. -/
def read? (s : String) : Option Instant := ofChars? s.toList

end CallExchange.Instant
