/-!
# Instants

An instant is a date of the proleptic Gregorian calendar and a time of day, both in universal time,
to the nanosecond. The sixtieth second of a minute is a leap second, which comes after every other
second of its minute. Years run from −262143 to 262142.

## Main definitions

* `Instant` — a valid date and time of day
* `Instant.rank` — the place of an instant in the order of time
* `Instant.ofLocal?` — the instant of a local date and time at an offset from universal time

## Main results

* `Instant.not_lt`, `Instant.lt_of_le_of_lt` — later and earlier, by comparing ranks
-/

namespace CallExchange

namespace Calendar

/-- Every fourth year is long, except the years of a century that 400 does not divide. -/
def isLeap (year : Int) : Bool := year % 4 = 0 && (year % 100 ≠ 0 || year % 400 = 0)

/-- The number of days of a month. -/
def monthLength (year : Int) (month : Nat) : Nat :=
  match month with
  | 2 => if isLeap year then 29 else 28
  | 4 | 6 | 9 | 11 => 30
  | _ => 31

/-- A date. -/
structure Date where
  year : Int
  month : Nat
  day : Nat
  deriving DecidableEq, Repr

/-- The date exists, in a year that is covered. -/
def Date.Valid (d : Date) : Prop :=
  (-262143 ≤ d.year ∧ d.year ≤ 262142) ∧ (1 ≤ d.month ∧ d.month ≤ 12) ∧
    (1 ≤ d.day ∧ d.day ≤ monthLength d.year d.month)

instance (d : Date) : Decidable d.Valid :=
  inferInstanceAs (Decidable ((-262143 ≤ d.year ∧ d.year ≤ 262142) ∧
    (1 ≤ d.month ∧ d.month ≤ 12) ∧ (1 ≤ d.day ∧ d.day ≤ monthLength d.year d.month)))

/-- The day after. -/
def Date.next (d : Date) : Date :=
  if d.day < monthLength d.year d.month then { d with day := d.day + 1 }
  else if d.month < 12 then { d with month := d.month + 1, day := 1 }
  else ⟨d.year + 1, 1, 1⟩

/-- The day before. -/
def Date.previous (d : Date) : Date :=
  if 1 < d.day then { d with day := d.day - 1 }
  else if 1 < d.month then ⟨d.year, d.month - 1, monthLength d.year (d.month - 1)⟩
  else ⟨d.year - 1, 12, 31⟩

end Calendar

/-- The fields of a time of day exist: a leap second is the second 60. -/
def ClockValid (hour minute second nano : Nat) : Prop :=
  hour < 24 ∧ minute < 60 ∧ second ≤ 60 ∧ nano < 1000000000

instance (hour minute second nano : Nat) : Decidable (ClockValid hour minute second nano) :=
  inferInstanceAs (Decidable (hour < 24 ∧ minute < 60 ∧ second ≤ 60 ∧ nano < 1000000000))

/-- A date and a time of day in universal time. -/
structure Instant where
  date : Calendar.Date
  hour : Nat
  minute : Nat
  second : Nat
  nano : Nat
  date_valid : date.Valid
  clock_valid : ClockValid hour minute second nano
  deriving DecidableEq, Repr

namespace Instant

/-- The fields as one number in mixed radix, most significant first: each field stays below the
radix of its place, so ranks order instants field by field. -/
def rank (t : Instant) : Int :=
  (((((t.date.year * 13 + t.date.month) * 32 + t.date.day) * 24 + t.hour) * 60 + t.minute) * 61 +
    t.second) * 1000000000 + t.nano

instance : LT Instant := ⟨fun a b => a.rank < b.rank⟩

instance : LE Instant := ⟨fun a b => a.rank ≤ b.rank⟩

instance (a b : Instant) : Decidable (a < b) := inferInstanceAs (Decidable (a.rank < b.rank))

instance (a b : Instant) : Decidable (a ≤ b) := inferInstanceAs (Decidable (a.rank ≤ b.rank))

theorem not_lt {a b : Instant} : ¬a < b ↔ b ≤ a := Int.not_lt

theorem lt_of_le_of_lt {a b c : Instant} (h : a ≤ b) (h' : b < c) : a < c :=
  Int.lt_of_le_of_lt h h'

/-- The instant of a local date and time of day at an offset of `minutes` east of universal time,
unless a field is out of range or the date in universal time is out of the years covered. -/
def ofLocal? (date : Calendar.Date) (hour minute second nano : Nat) (minutes : Int) :
    Option Instant :=
  if ClockValid hour minute second nano ∧ date.Valid then
    let total : Int := hour * 60 + minute - minutes
    let date := if total < 0 then date.previous else if 1440 ≤ total then date.next else date
    let clock := (total % 1440).toNat
    if h : date.Valid ∧ ClockValid (clock / 60) (clock % 60) second nano then
      some ⟨date, clock / 60, clock % 60, second, nano, h.1, h.2⟩
    else none
  else none

/-- The instant at which a session starts unless it says otherwise: 14 November 2023, 22:13:20. -/
def start : Instant := ⟨⟨2023, 11, 14⟩, 22, 13, 20, 0, by decide, by decide⟩

instance : Inhabited Instant := ⟨start⟩

end Instant

end CallExchange
