import CallExchange.Text.Decimal

/-!
# Numbers in structured data

A number is written with a minus sign if it is negative, whole digits without a leading zero, and
perhaps a fraction and a power of ten. Whole digits alone stand for the integer that they name if 64
bits hold it, signed or unsigned; a negative zero is no integer. Every other number is one that a
floating-point number of 64 bits may come close to, and it can be too great for that.

Whether it is too great is judged from its leading digits: as many as an unsigned word holds are
rounded to 53 bits and multiplied with the power of ten that the other digits and the exponent call
for, itself rounded to 53 bits.

## Main definitions

* `Numeral` — what a number stands for
* `Numeral.Spelling` — the parts of a written number
* `Numeral.Spelling.integer?` — the 64-bit integer that it names, if it names one
* `Numeral.Spelling.isExcessive` — it is too great
* `Numeral.read?` — the numeral of a run of characters
-/

namespace CallExchange

open Text

/-- What a number stands for. -/
inductive Numeral where
  /-- An integer of 64 bits, signed or unsigned. -/
  | whole (n : Int)
  /-- Any other number that is not too great. -/
  | inexact
  /-- A number beyond every floating-point number of 64 bits. -/
  | excessive
  deriving DecidableEq, Repr, Inhabited

namespace Numeral

/-- The integers that a number can stand for: signed or unsigned 64 bits. -/
def InRange (n : Int) : Prop := Int64.minValue.toInt ≤ n ∧ n < UInt64.size

instance : DecidablePred InRange := fun n =>
  inferInstanceAs (Decidable (Int64.minValue.toInt ≤ n ∧ n < UInt64.size))

/-- The parts of a written number. -/
structure Spelling where
  negative : Bool
  whole : List Char
  /-- The digits after the point; none if there is no point. -/
  fraction : List Char
  /-- The power of ten, if one is written. -/
  power : Option Int
  deriving DecidableEq, Repr

namespace Spelling

/-- The integer that whole digits name under their sign, if 64 bits hold it. -/
def integer? (s : Spelling) : Option Int :=
  if s.fraction = [] ∧ s.power = none then
    let n := Decimal.value s.whole
    let value : Int := if s.negative then -n else n
    if (s.negative ∧ n = 0) ∨ ¬InRange value then none else some value
  else none

/-- A significand with more digits after it, as many as an unsigned word holds; and the number of
digits left over. -/
def extend (significand : Nat) : List Char → Nat × Nat
  | [] => (significand, 0)
  | c :: cs =>
    let longer := significand * 10 + (c.toNat - '0'.toNat)
    if longer < UInt64.size then extend longer cs else (significand, cs.length + 1)

/-- A number rounded to 53 significant bits, a half to the even neighbour. -/
def rounded (n : Nat) : Nat :=
  let unit := Nat.pow 2 (n.log2 + 1 - 53)
  let below := n / unit
  let rest := n % unit
  if unit < 2 * rest ∨ (2 * rest = unit ∧ below % 2 = 1) then (below + 1) * unit else below * unit

/-- The least number that is rounded beyond every floating-point number: the greatest of these and
half of the step that would follow it. -/
def bound : Nat := Nat.pow 2 1024 - Nat.pow 2 970

/-- The greatest power of ten that a floating-point number comes close to. -/
def maxPower : Int := 308

/-- The number is too great for a floating-point number. -/
def isExcessive (s : Spelling) : Bool :=
  let (start, left) := extend 0 s.whole
  let (significand, beyond) := extend start s.fraction
  let power := s.power.getD 0 + left - (s.fraction.length - beyond : Nat)
  significand ≠ 0 &&
    (maxPower < power ||
      (0 ≤ power && bound ≤ rounded significand * rounded (Nat.pow 10 power.toNat)))

/-- What a written number stands for. -/
def numeral (s : Spelling) : Numeral :=
  match s.integer? with
  | some n => .whole n
  | none => if s.isExcessive then .excessive else .inexact

end Spelling

/-- Whole digits without a leading zero. -/
def isWhole : List Char → Bool
  | ['0'] => true
  | '0' :: _ => false
  | cs => Decimal.isDigits cs

/-- The number that digits name. -/
def digits? (cs : List Char) : Option Nat :=
  if Decimal.isDigits cs then some (Decimal.value cs) else none

/-- The power of ten after its mark: a sign if there is one, then digits. -/
def exponent? : List Char → Option Int
  | '+' :: cs => (digits? cs).map fun n => (n : Int)
  | '-' :: cs => (digits? cs).map fun n => -(n : Int)
  | cs => (digits? cs).map fun n => (n : Int)

/-- The end of a number: nothing, or a power of ten with its mark. -/
def power? : List Char → Option (Option Int)
  | [] => some none
  | 'e' :: cs => (exponent? cs).map some
  | 'E' :: cs => (exponent? cs).map some
  | _ => none

/-- The parts of a number without its sign. -/
def unsigned? (negative : Bool) (cs : List Char) : Option Spelling :=
  let whole := cs.takeWhile Char.isDigit
  if isWhole whole then
    match cs.dropWhile Char.isDigit with
    | '.' :: tail =>
      let fraction := tail.takeWhile Char.isDigit
      if fraction.isEmpty then none
      else (power? (tail.dropWhile Char.isDigit)).map fun p => ⟨negative, whole, fraction, p⟩
    | tail => (power? tail).map fun p => ⟨negative, whole, [], p⟩
  else none

/-- The parts of the number that a run of characters spells, if it spells one. -/
def spelling? : List Char → Option Spelling
  | '-' :: cs => unsigned? true cs
  | cs => unsigned? false cs

/-- What the number that a run of characters spells stands for. -/
def read? (cs : List Char) : Option Numeral := (spelling? cs).map Spelling.numeral

end Numeral

end CallExchange
