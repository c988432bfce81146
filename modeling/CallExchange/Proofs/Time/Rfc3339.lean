import CallExchange.Time.Rfc3339
import Mathlib.Algebra.Group.Nat.Defs
import Mathlib.Data.List.TakeWhile

/-!
# Instants are read back

The text of an instant names the instant again. The text is longer or shorter with the year and the
fraction of the second, so each field is read back by itself, whatever follows it.

## Main results

* `number?_padded` — a field of fixed width
* `year?_writeYear`, `fraction?_writeFraction` — the fields of varying width
* `read?_write` — the instant
-/

namespace CallExchange.Instant

open Text

variable {width n : Nat} {cs ds rest : List Char} {c : Char}

/-! ### Digits -/

theorem isDigit_of_mem_padded (mem : c ∈ padded width n) : c.isDigit = true := by
  rcases List.mem_append.mp mem with zero | digit
  · rw [List.eq_of_mem_replicate zero]
    rfl
  · exact Decimal.isDigit_of_mem_ofNat digit

/-- Zeros in front do not change a number. -/
theorem value_padded : Decimal.value (padded width n) = n := by
  have digits : Nat.ofDigitChars 10 (Decimal.ofNat n) 0 = n := Decimal.value_ofNat n
  rw [Decimal.value, padded, Nat.ofDigitChars_append, Nat.ofDigitChars_replicate_zero,
    Nat.mul_zero, digits]

theorem length_padded (positive : 0 < width) (fits : n < 10 ^ width) :
    (padded width n).length = width := by
  have short : (Decimal.ofNat n).length ≤ width :=
    (Nat.length_toDigits_le_iff (by decide) positive).mpr fits
  rw [padded, List.length_append, List.length_replicate]
  omega

theorem padded_ne_nil : padded width n ≠ [] := by
  simp [padded]

/-- What follows a number does not go on with digits. -/
def Stops (rest : List Char) : Prop := ∀ c ∈ rest.head?, c.isDigit = false

/-- Digits are taken up to the limit on their number, or as far as they go. -/
theorem takeWhile_take (digits : ∀ c ∈ ds, c.isDigit = true) (stops : Stops rest)
    (within : ds.length ≤ width) :
    ((ds ++ rest).take width).takeWhile Char.isDigit = ds := by
  rw [List.take_append, List.take_of_length_le within]
  -- what the digits leave of the limit may reach into the rest, which starts with no digit
  refine (span_append digits fun c head => ?_).1
  cases rest with
  | nil => simp at head
  | cons d rest =>
    cases left : width - ds.length with
    | zero => simp [left] at head
    | succ k =>
      rw [left] at head
      exact stops c head

/-- Digits are a number, if they are not too many. -/
theorem number?_digits (digits : ∀ c ∈ ds, c.isDigit = true) (nonempty : ds ≠ [])
    (stops : Stops rest) (within : ds.length ≤ width) :
    number? width (ds ++ rest) = some (Decimal.value ds, rest) := by
  rw [number?, takeWhile_take digits stops within]
  simp [nonempty]

/-- A field of fixed width is read back. -/
theorem number?_padded (positive : 0 < width) (fits : n < 10 ^ width) (stops : Stops rest) :
    number? width (padded width n ++ rest) = some (n, rest) := by
  rw [number?_digits (fun _ => isDigit_of_mem_padded) padded_ne_nil stops
    (length_padded positive fits).le, value_padded]

/-! ### Fields -/

theorem stops_cons (other : c.isDigit = false) : Stops (c :: rest) := by
  rintro d ⟨⟩
  exact other

/-- There is no white space before digits. -/
theorem trimStart_digits (digits : ∀ c ∈ ds, c.isDigit = true) (nonempty : ds ≠ []) :
    trimStart (ds ++ rest) = ds ++ rest := by
  cases ds with
  | nil => exact absurd rfl nonempty
  | cons c ds =>
    have solid := isSpace_of_isDigit (digits c List.mem_cons_self)
    simp [trimStart, solid]

theorem trimStart_cons (solid : isSpace c = false) : trimStart (c :: rest) = c :: rest := by
  simp [trimStart, solid]

theorem field?_padded (fits : n < 100) (stops : Stops rest) :
    field? (padded 2 n ++ rest) = some (n, rest) := by
  rw [field?, trimStart_digits (fun _ => isDigit_of_mem_padded) padded_ne_nil,
    number?_padded (by decide) fits stops]

theorem after?_cons (solid : isSpace c = false) : after? c (c :: rest) = some rest := by
  simp [after?, trimStart_cons solid]

/-- After its sign a year may have any number of digits. -/
theorem number?_signed (stops : Stops rest) :
    number? (padded width n ++ rest).length (padded width n ++ rest) = some (n, rest) := by
  rw [number?_digits (fun _ => isDigit_of_mem_padded) padded_ne_nil stops (by simp),
    value_padded]

theorem isDigit_of_padded_eq_cons (front : padded width n ++ rest = c :: cs) :
    c.isDigit = true := by
  cases digits : padded width n with
  | nil => exact absurd digits padded_ne_nil
  | cons d ds =>
    rw [digits] at front
    cases front
    exact isDigit_of_mem_padded (digits ▸ List.mem_cons_self)

/-- A year is read back, with or without a sign. -/
theorem year?_writeYear (year : Int) (stops : Stops rest) :
    year? (writeYear year ++ rest) = some (year, rest) := by
  unfold writeYear
  -- a year of four digits has no sign, and the reader looks for a sign first
  by_cases plain : 0 ≤ year ∧ year ≤ 9999
  · rw [if_pos plain, year?, trimStart_digits (fun _ => isDigit_of_mem_padded) padded_ne_nil]
    have named : number? 4 (padded 4 year.toNat ++ rest) = some (year.toNat, rest) :=
      number?_padded (by decide) (by omega) stops
    have value : (year.toNat : Int) = year := by omega
    split
    · next signed => cases isDigit_of_padded_eq_cons signed
    · next signed => cases isDigit_of_padded_eq_cons signed
    · simp only [named, Option.map_some, value]
  · rw [if_neg plain]
    by_cases negative : year < 0
    · have value : -(year.natAbs : Int) = year := by omega
      rw [if_pos negative, List.cons_append, year?, trimStart_cons (by decide)]
      simp only [number?_signed stops, Option.map_some, value]
    · have value : (year.natAbs : Int) = year := by omega
      rw [if_neg negative, List.cons_append, year?, trimStart_cons (by decide)]
      simp only [number?_signed stops, Option.map_some, value]

/-- The digits after the point stand for nanoseconds. -/
theorem fraction?_digits (digits : ∀ c ∈ ds, c.isDigit = true) (nonempty : ds ≠ [])
    (within : ds.length ≤ 9) (stops : Stops rest) :
    fraction? ('.' :: (ds ++ rest)) =
      some (Decimal.value ds * 10 ^ (9 - ds.length), rest) := by
  have value : Decimal.value (ds ++ List.replicate (9 - ds.length) '0') =
      Decimal.value ds * 10 ^ (9 - ds.length) := by
    rw [Decimal.value, Nat.ofDigitChars_append, Nat.ofDigitChars_replicate_zero, Nat.mul_comm]
    rfl
  simp only [fraction?, takeWhile_take digits stops within, value, (span_append digits stops).2]
  simp [nonempty]

theorem fraction?_padded (positive : 0 < width) (within : width ≤ 9) (fits : n < 10 ^ width)
    (stops : Stops rest) :
    fraction? ('.' :: (padded width n ++ rest)) = some (n * 10 ^ (9 - width), rest) := by
  have length := length_padded positive fits
  rw [fraction?_digits (fun _ => isDigit_of_mem_padded) padded_ne_nil (length.trans_le within)
    stops, value_padded, length]

/-- A fraction is read back from the digits that it needs. -/
theorem fraction?_writeFraction {nano : Nat} (fits : nano < 1000000000) (stops : Stops rest)
    (point : rest.head? ≠ some '.') :
    fraction? (writeFraction nano ++ rest) = some (nano, rest) := by
  unfold writeFraction
  -- the shorter forms leave out digits that are zero, and the reader puts the zeros back
  by_cases whole : nano = 0
  · rw [if_pos whole, whole, List.nil_append]
    exact fraction?.eq_2 rest fun cs same => point (congrArg List.head? same)
  rw [if_neg whole]
  by_cases milli : nano % 1000000 = 0
  · rw [if_pos milli, List.cons_append, fraction?_padded (by decide) (by decide) (by omega) stops]
    exact congrArg (fun n => some (n, rest)) (by omega)
  rw [if_neg milli]
  by_cases micro : nano % 1000 = 0
  · rw [if_pos micro, List.cons_append, fraction?_padded (by decide) (by decide) (by omega) stops]
    exact congrArg (fun n => some (n, rest)) (by omega)
  · rw [if_neg micro, List.cons_append, fraction?_padded (by decide) (by decide) (by omega) stops]
    exact congrArg (fun n => some (n, rest)) (by omega)

/-- A fraction starts with its point. -/
theorem stops_writeFraction {nano : Nat} (stops : Stops rest) :
    Stops (writeFraction nano ++ rest) := by
  unfold writeFraction
  split
  · exact stops
  split
  · exact stops_cons (by decide)
  split <;> exact stops_cons (by decide)

/-! ### Instants -/

/-- A date and a time of day in universal time are an instant as they are. -/
theorem ofLocal?_of_universal (t : Instant) :
    ofLocal? t.date t.hour t.minute t.second t.nano 0 = some t := by
  obtain ⟨hour, minute, -, -⟩ := t.clock_valid
  -- without an offset the minutes of the day stay within the day
  have early : ¬(t.hour : Int) * 60 + t.minute - 0 < 0 := by omega
  have late : ¬1440 ≤ (t.hour : Int) * 60 + t.minute - 0 := by omega
  have clock : (((t.hour : Int) * 60 + t.minute - 0) % 1440).toNat = t.hour * 60 + t.minute := by
    omega
  have hours : (t.hour * 60 + t.minute) / 60 = t.hour := by omega
  have minutes : (t.hour * 60 + t.minute) % 60 = t.minute := by omega
  rw [ofLocal?, if_pos ⟨t.clock_valid, t.date_valid⟩]
  simp only [early, late, if_false, clock, hours, minutes]
  exact dif_pos ⟨t.date_valid, t.clock_valid⟩

theorem monthLength_le (year : Int) (month : Nat) : Calendar.monthLength year month ≤ 31 := by
  unfold Calendar.monthLength
  split
  · split <;> decide
  all_goals decide

/-- A date is read back. -/
theorem date?_chars (d : Calendar.Date) (valid : d.Valid) (stops : Stops rest) :
    date? (writeYear d.year ++ '-' :: (padded 2 d.month ++ '-' :: (padded 2 d.day ++ rest))) =
      some (d, rest) := by
  obtain ⟨-, month, day⟩ := valid
  have days := monthLength_le d.year d.month
  simp only [date?, year?_writeYear d.year (stops_cons (show Char.isDigit '-' = false by decide)),
    after?_cons (show isSpace '-' = false by decide),
    field?_padded (show d.month < 100 by omega) (stops_cons (show Char.isDigit '-' = false by decide)),
    field?_padded (show d.day < 100 by omega) stops, Option.bind_eq_bind, Option.bind_some]
  rfl

/-- An instant is read back from its characters. -/
theorem ofChars?_chars (t : Instant) : ofChars? t.chars = some t := by
  obtain ⟨hour, minute, second, nano⟩ := t.clock_valid
  have colon : Char.isDigit ':' = false := by decide
  have zone : Stops ['Z'] := stops_cons (by decide)
  have ends : Stops (writeFraction t.nano ++ ['Z']) := stops_writeFraction zone
  have shape : t.chars =
      writeYear t.date.year ++ '-' :: (padded 2 t.date.month ++ '-' :: (padded 2 t.date.day ++
        'T' :: (padded 2 t.hour ++ ':' :: (padded 2 t.minute ++ ':' :: (padded 2 t.second ++
          (writeFraction t.nano ++ ['Z'])))))) := by
    simp [chars]
  rw [shape, ofChars?]
  simp only [date?_chars t.date t.date_valid (stops_cons (show Char.isDigit 'T' = false by decide)),
    mark?, field?_padded (show t.hour < 100 by omega) (stops_cons colon),
    field?_padded (show t.minute < 100 by omega) (stops_cons colon),
    field?_padded (show t.second < 100 by omega) ends,
    after?_cons (show isSpace ':' = false by decide),
    fraction?_writeFraction nano zone (by decide), Option.bind_eq_bind, Option.bind_some]
  exact ofLocal?_of_universal t

/-- An instant is read back from its text. -/
theorem read?_write (t : Instant) : read? t.write = some t := by
  rw [read?, write, String.toList_ofList, ofChars?_chars]

end CallExchange.Instant
