/-!
# Numbers as decimal text

Whole numbers are written with the fewest digits, a negative one after a minus sign. An unsigned
number is read from digits alone, a plus sign before them allowed; leading zeros are read, spaces
and every other character are not.

## Main definitions

* `Decimal.ofNat`, `Decimal.ofInt` — the digits of a number
* `Decimal.readNat?` — the number that a text of digits names
* `Decimal.readWord?` — the same within 64 bits

## Main results

* `readNat?_ofNat` — the digits of a number name that number
-/

namespace CallExchange.Text.Decimal

/-- The decimal digits of a natural number. -/
def ofNat (n : Nat) : List Char := Nat.toDigits 10 n

/-- The decimal digits of a whole number, after a minus sign if it is negative. -/
def ofInt : Int → List Char
  | .ofNat n => ofNat n
  | .negSucc n => '-' :: ofNat (n + 1)

/-- A whole number as text. -/
def showInt (n : Int) : String := String.ofList (ofInt n)

/-- The number that a list of decimal digits names. -/
def value (digits : List Char) : Nat := Nat.ofDigitChars 10 digits 0

@[simp] theorem value_ofNat (n : Nat) : value (ofNat n) = n :=
  Nat.ofDigitChars_toDigits (by decide) (by decide)

theorem isDigit_of_mem_ofNat {n : Nat} {c : Char} (h : c ∈ ofNat n) : c.isDigit = true :=
  Nat.isDigit_of_mem_toDigits (by decide) (by decide) h

@[simp] theorem all_isDigit_ofNat (n : Nat) : (ofNat n).all Char.isDigit = true :=
  List.all_eq_true.2 fun _ h => isDigit_of_mem_ofNat h

@[simp] theorem ofNat_ne_nil (n : Nat) : ofNat n ≠ [] := Nat.toDigits_ne_nil

/-- A text of one or more digits. -/
def isDigits (cs : List Char) : Bool := !cs.isEmpty && cs.all Char.isDigit

@[simp] theorem isDigits_ofNat (n : Nat) : isDigits (ofNat n) = true := by
  simp [isDigits, -List.all_eq_true]

theorem isDigits_iff {cs : List Char} :
    isDigits cs = true ↔ cs ≠ [] ∧ ∀ c ∈ cs, c.isDigit = true := by
  simp [isDigits]

/-- Digits start with a digit. -/
theorem exists_digit_of_isDigits {cs : List Char} (digits : isDigits cs = true) :
    ∃ c tail, cs = c :: tail ∧ c.isDigit = true := by
  cases cs with
  | nil => cases digits
  | cons c tail => exact ⟨c, tail, rfl, (isDigits_iff.mp digits).2 c List.mem_cons_self⟩

/-- A text without one leading plus sign. -/
def dropPlus : List Char → List Char
  | '+' :: cs => cs
  | cs => cs

theorem dropPlus_eq_self {cs : List Char} (h : ∀ c ∈ cs, c.isDigit = true) : dropPlus cs = cs := by
  unfold dropPlus
  split
  · simp at h
  · rfl

/-- The number a text names: digits, after an optional plus sign. -/
def readNat? (cs : List Char) : Option Nat :=
  let digits := dropPlus cs
  if isDigits digits then some (value digits) else none

theorem readNat?_ofNat (n : Nat) : readNat? (ofNat n) = some n := by
  simp [readNat?, dropPlus_eq_self fun _ h => isDigit_of_mem_ofNat h]

/-- The number a text names, if it fits 64 bits. -/
def readWord? (s : String) : Option UInt64 :=
  match readNat? s.toList with
  | some n => if n < UInt64.size then some (UInt64.ofNat n) else none
  | none => none

/-- A 64-bit number is read back from its digits. -/
theorem readWord?_ofNat (w : UInt64) : readWord? (String.ofList (ofNat w.toNat)) = some w := by
  simp only [readWord?, String.toList_ofList, readNat?_ofNat]
  rw [if_pos w.toNat_lt_size, UInt64.ofNat_toNat]

end CallExchange.Text.Decimal
