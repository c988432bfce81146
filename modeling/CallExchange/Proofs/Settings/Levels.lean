import CallExchange.Settings.Basic
import Mathlib.Data.List.Forall2
import Mathlib.Data.List.Induction

/-!
# The names of the log levels

A level is named by its name, each letter in either case, or by its number, with zeros or a plus
sign before it. These are all its names, and no two levels share one.

## Main definitions

* `Decimal.NamedBy` — the texts of a number
* `LogLevel.NamedBy` — the names of a level
* `LogLevel.WrittenIn` — a name of a level with white space around it

## Main results

* `readNat?_eq_some_iff`, `readWord?_eq_some_iff` — the number that a text names
* `parse?_eq_some_iff`, `parse?_trim_eq_some_iff` — the level that a text names
-/

namespace CallExchange

/-! ### Numbers -/

namespace Text.Decimal

variable {cs : List Char} {n : Nat}

/-- A number is named by its digits, zeros or a plus sign allowed before them. -/
inductive NamedBy (n : Nat) : List Char → Prop
  | bare (zeros : Nat) : NamedBy n (List.replicate zeros '0' ++ ofNat n)
  | plus (zeros : Nat) : NamedBy n ('+' :: (List.replicate zeros '0' ++ ofNat n))

theorem exists_digitChar {c : Char} (digit : c.isDigit = true) : ∃ d < 10, c = Nat.digitChar d := by
  have low : 48 ≤ c.toNat ∧ c.toNat ≤ 57 := by
    simpa [Char.isDigit, UInt32.le_iff_toNat_le] using digit
  refine ⟨c.toNat - 48, by omega, Char.toNat_inj.mp ?_⟩
  rw [Nat.toNat_digitChar_of_lt_ten (by omega)]
  omega

/-- One more digit is counted after ten times what stands before it. -/
theorem value_concat {d : Nat} (small : d < 10) :
    value (cs ++ [Nat.digitChar d]) = 10 * value cs + d := by
  rw [value, Nat.ofDigitChars_append, Nat.ofDigitChars_cons_digitChar_of_lt_ten small,
    Nat.ofDigitChars_nil, value]

/-- Digits are zeros and the digits of their value. -/
theorem exists_zeros (digits : isDigits cs = true) :
    ∃ zeros, cs = List.replicate zeros '0' ++ ofNat (value cs) := by
  -- from the end, where the value of a text takes in one more digit
  induction cs using List.reverseRecOn with
  | nil => cases digits
  | append_singleton ds c ih =>
    obtain ⟨-, inside⟩ := isDigits_iff.mp digits
    obtain ⟨d, small, rfl⟩ := exists_digitChar (inside c (by simp))
    rw [value_concat small]
    by_cases first : ds = []
    · subst first
      exact ⟨0, by simp [value, ofNat, Nat.toDigits_of_lt_base small]⟩
    obtain ⟨zeros, split⟩ := ih (isDigits_iff.mpr ⟨first, fun e mem => inside e (by simp [mem])⟩)
    by_cases nothing : value ds = 0
    · -- what stood before was zeros alone, and the last of them is not needed any more
      refine ⟨zeros + 1, ?_⟩
      rw [nothing, ofNat, Nat.toDigits_zero, ← List.replicate_succ'] at split
      rw [nothing, split, Nat.mul_zero, Nat.zero_add, ofNat, Nat.toDigits_of_lt_base small]
    · refine ⟨zeros, ?_⟩
      rw [ofNat, ← Nat.toDigits_append_toDigits (by decide) (Nat.pos_of_ne_zero nothing) small,
        Nat.toDigits_of_lt_base small, ← List.append_assoc, ← ofNat, ← split]

theorem isDigits_zeros (zeros n : Nat) :
    isDigits (List.replicate zeros '0' ++ ofNat n) = true := by
  refine isDigits_iff.mpr ⟨by simp, fun c mem => ?_⟩
  rcases List.mem_append.mp mem with zero | digit
  · rw [List.eq_of_mem_replicate zero]
    rfl
  · exact isDigit_of_mem_ofNat digit

theorem value_zeros (zeros n : Nat) : value (List.replicate zeros '0' ++ ofNat n) = n := by
  rw [value, Nat.ofDigitChars_append, Nat.ofDigitChars_replicate_zero, Nat.mul_zero]
  exact value_ofNat n

/-- The number that is read from a text is the one that the text names. -/
theorem readNat?_eq_some_iff : readNat? cs = some n ↔ NamedBy n cs := by
  constructor
  · intro read
    obtain ⟨digits, same⟩ := Option.ite_some_none_eq_some.mp read
    obtain ⟨zeros, parts⟩ := exists_zeros digits
    rw [same] at parts
    unfold dropPlus at parts
    split at parts
    · exact parts ▸ .plus zeros
    · exact parts ▸ .bare zeros
  · intro named
    cases named with
    | bare zeros =>
      have digits := isDigits_zeros zeros n
      rw [readNat?, dropPlus_eq_self (isDigits_iff.mp digits).2, if_pos digits, value_zeros]
    | plus zeros => rw [readNat?, dropPlus, if_pos (isDigits_zeros zeros n), value_zeros]

theorem NamedBy.ne_nil (named : NamedBy n cs) : cs ≠ [] := by
  cases named <;> simp

theorem NamedBy.plus_or_isDigit (named : NamedBy n cs) : ∀ c ∈ cs, c = '+' ∨ c.isDigit = true := by
  have inside (zeros : Nat) := (isDigits_iff.mp (isDigits_zeros zeros n)).2
  cases named with
  | bare zeros => exact fun c mem => .inr (inside zeros c mem)
  | plus zeros =>
    intro c mem
    rcases List.mem_cons.mp mem with rfl | mem
    · exact .inl rfl
    · exact .inr (inside zeros c mem)

theorem readWord?_eq_some_iff {s : String} {w : UInt64} :
    readWord? s = some w ↔ NamedBy w.toNat s.toList := by
  rw [readWord?, ← readNat?_eq_some_iff]
  cases readNat? s.toList with
  | none => simp
  | some n =>
    simp only [Option.ite_none_right_eq_some, Option.some.injEq]
    constructor
    · rintro ⟨fits, rfl⟩
      exact (UInt64.toNat_ofNat_of_lt' fits).symm
    · rintro rfl
      exact ⟨w.toNat_lt_size, UInt64.ofNat_toNat⟩

end Text.Decimal

/-! ### Levels -/

namespace LogLevel

open Text

variable {l : LogLevel} {s : String} {cs ds : List Char} {c d : Char}

/-- The number of a level, from errors to traces. -/
def number : LogLevel → Nat
  | .error => 1
  | .warn => 2
  | .info => 3
  | .debug => 4
  | .trace => 5

/-- A capital letter is written as itself or as its small letter. -/
abbrev EitherCase (c capital : Char) : Prop := c = capital ∨ c = capital.toLower

/-- A level is named by its name, each letter in either case, or by its number. -/
inductive NamedBy (l : LogLevel) : List Char → Prop
  | name {cs : List Char} (letters : List.Forall₂ EitherCase cs l.name.toList) : NamedBy l cs
  | number {cs : List Char} (digits : Decimal.NamedBy l.number cs) : NamedBy l cs

theorem toNat_toUpper (c : Char) :
    c.toUpper.toNat = if 97 ≤ c.toNat ∧ c.toNat ≤ 122 then c.toNat - 32 else c.toNat := by
  unfold Char.toUpper
  simp only [UInt32.le_iff_toNat_le, Char.reduceVal, UInt32.reduceToNat, Char.toNat_val]
  split
  · have shifted : (c.val + (65 - 97)).toNat = c.toNat - 32 := by
      rw [UInt32.toNat_add]
      simp only [Char.toNat_val, show (65 - 97 : UInt32).toNat = 2 ^ 32 - 32 from rfl]
      omega
    exact shifted
  · rfl

theorem toNat_toLower (c : Char) :
    c.toLower.toNat = if 65 ≤ c.toNat ∧ c.toNat ≤ 90 then c.toNat + 32 else c.toNat := by
  unfold Char.toLower
  simp only [ge_iff_le, UInt32.le_iff_toNat_le, Char.reduceVal, UInt32.reduceToNat, Char.toNat_val]
  split
  · have shifted : (c.val + (97 - 65)).toNat = c.toNat + 32 := by
      rw [UInt32.toNat_add]
      simp only [Char.toNat_val, show (97 - 65 : UInt32).toNat = 32 from rfl]
      omega
    exact shifted
  · rfl

theorem isUpper_iff : c.isUpper = true ↔ 65 ≤ c.toNat ∧ c.toNat ≤ 90 := by
  change decide (65 ≤ c.val ∧ c.val ≤ 90) = true ↔ _
  rw [decide_eq_true_eq, UInt32.le_iff_toNat_le, UInt32.le_iff_toNat_le]
  rfl

/-- A capital letter is the capital of itself and of its small letter, and of nothing else. -/
theorem toUpper_eq_iff (upper : d.isUpper = true) : c.toUpper = d ↔ EitherCase c d := by
  have range := isUpper_iff.mp upper
  simp only [EitherCase, ← Char.toNat_inj, toNat_toUpper, toNat_toLower, if_pos range]
  split <;> omega

theorem capitals_eq_iff (upper : ∀ d ∈ ds, d.isUpper = true) :
    capitals cs = ds ↔ List.Forall₂ EitherCase cs ds := by
  induction ds generalizing cs with
  | nil => simp [capitals]
  | cons d ds ih =>
    obtain ⟨first, later⟩ := List.forall_mem_cons.mp upper
    cases cs with
    | nil => simp [capitals]
    | cons c cs =>
      rw [List.forall₂_cons, ← toUpper_eq_iff first, ← ih later]
      simp [capitals]

theorem isUpper_name : ∀ d ∈ l.name.toList, d.isUpper = true := by
  refine List.all_eq_true.mp ?_
  cases l <;> rfl

theorem ofName?_eq_some_iff : ofName? s = some l ↔ capitals s.toList = l.name.toList := by
  constructor
  · intro found
    have same := List.find?_some found
    exact (of_decide_eq_true same).symm
  · intro same
    rw [ofName?, same]
    cases l <;> rfl

theorem ofNumber?_eq_some_iff {n : Nat} : ofNumber? n = some l ↔ n = l.number := by
  constructor
  · intro found
    unfold ofNumber? at found
    split at found <;> cases found <;> rfl
  · rintro rfl
    cases l <;> rfl

/-- The level of a number. -/
theorem readNumber_eq_some_iff :
    ((Decimal.readWord? s).bind fun n => ofNumber? n.toNat) = some l ↔
      Decimal.NamedBy l.number s.toList := by
  simp only [Option.bind_eq_some_iff, Decimal.readWord?_eq_some_iff, ofNumber?_eq_some_iff]
  constructor
  · rintro ⟨w, named, same⟩
    exact same ▸ named
  · intro named
    have fits : l.number < UInt64.size := by cases l <;> decide
    have same := UInt64.toNat_ofNat_of_lt' fits
    exact ⟨UInt64.ofNat l.number, same.symm ▸ named, same⟩

/-- The capitals of a name are capital letters. -/
theorem isUpper_of_capitals (same : capitals cs = l.name.toList) (mem : c ∈ cs) :
    c.toUpper.isUpper = true := by
  have listed : c.toUpper ∈ capitals cs := List.mem_map_of_mem mem
  exact isUpper_name c.toUpper (same ▸ listed)

/-- What names a number is not the name of a level. -/
theorem capitals_ne_of_namedBy {n : Nat} (digits : Decimal.NamedBy n cs) :
    capitals cs ≠ l.name.toList := by
  intro same
  cases cs with
  | nil => exact digits.ne_nil rfl
  | cons c cs =>
    have upper := isUpper_of_capitals same List.mem_cons_self
    rcases digits.plus_or_isDigit c List.mem_cons_self with rfl | digit
    · cases upper
    · obtain ⟨d, small, rfl⟩ := Decimal.exists_digitChar digit
      have others : ∀ d < 10, (Nat.digitChar d).toUpper.isUpper = false := by decide
      rw [others d small] at upper
      cases upper

/-- The level that is read from a text is the one that the text names. -/
theorem parse?_eq_some_iff : parse? s = some l ↔ l.NamedBy s.toList := by
  have names : ofName? s = some l ↔ List.Forall₂ EitherCase s.toList l.name.toList :=
    ofName?_eq_some_iff.trans (capitals_eq_iff isUpper_name)
  rw [parse?]
  constructor
  · intro read
    split at read
    · next found =>
      cases read
      exact .number (readNumber_eq_some_iff.mp found)
    · exact .name (names.mp read)
  · intro named
    cases named with
    | number digits => rw [readNumber_eq_some_iff.mpr digits]
    | name letters =>
      -- a number is looked for first, but what names one is no name of a level
      split
      · next found =>
        exact absurd (ofName?_eq_some_iff.mp (names.mpr letters))
          (capitals_ne_of_namedBy (readNumber_eq_some_iff.mp found))
      · exact names.mpr letters

/-- A level is written in a text that is one of its names, but for white space at the ends. -/
def WrittenIn (l : LogLevel) (s : String) : Prop :=
  ∃ before word after, (∀ c ∈ before, isSpace c = true) ∧ (∀ c ∈ after, isSpace c = true) ∧
    l.NamedBy word ∧ s.toList = before ++ (word ++ after)

theorem isSpace_of_isUpper (upper : c.toUpper.isUpper = true) : isSpace c = false := by
  have range := isUpper_iff.mp upper
  rw [toNat_toUpper] at range
  simp [isSpace]
  split at range <;> omega

theorem NamedBy.ne_nil (named : l.NamedBy cs) : cs ≠ [] := by
  cases named with
  | number digits => exact digits.ne_nil
  | name letters =>
    rintro rfl
    cases l <;> cases letters

theorem NamedBy.solid (named : l.NamedBy cs) : ∀ c ∈ cs, isSpace c = false := by
  intro c mem
  cases named with
  | number digits =>
    rcases digits.plus_or_isDigit c mem with rfl | digit
    · rfl
    · exact isSpace_of_isDigit digit
  | name letters =>
    exact isSpace_of_isUpper (isUpper_of_capitals ((capitals_eq_iff isUpper_name).mpr letters) mem)

/-- The level that is read from a text after trimming is the one that is written in it. -/
theorem parse?_trim_eq_some_iff : parse? (trim s) = some l ↔ l.WrittenIn s := by
  rw [parse?_eq_some_iff]
  constructor
  · intro named
    obtain ⟨before, after, blank, blank', parts⟩ := exists_trim s
    exact ⟨before, _, after, blank, blank', named, parts⟩
  · rintro ⟨before, word, after, blank, blank', named, parts⟩
    rw [toList_trim blank blank' named.solid named.ne_nil parts]
    exact named

theorem WrittenIn.ne_empty (written : l.WrittenIn s) : s ≠ "" := by
  rintro rfl
  obtain ⟨before, word, after, -, -, named, parts⟩ := written
  obtain ⟨-, nothing, -⟩ : before = [] ∧ word = [] ∧ after = [] := by simpa using parts.symm
  exact named.ne_nil nothing

end LogLevel

end CallExchange
