import CallExchange.Json.Writer
import CallExchange.Proofs.Json.Grammar

/-!
# Texts and numbers are written as the grammar says

The quoted form of a text names its characters, and the digits of a 64-bit integer stand for that
integer.

## Main results

* `exists_writtenAs` — texts
* `exists_spelling` — numbers
-/

namespace CallExchange

open Text

namespace Json.Literal

variable {c : Char} {cs rest : List Char} {n : Nat} {ps : List Piece}

theorem hexValue_hexDigit : ∀ n < 16, hexValue (hexDigit n) = some n := by decide

/-- The escape of a control character names its number. -/
theorem unitOf_control (control : n < 0x20) :
    unitOf '0' '0' (hexDigit (n / 16)) (hexDigit (n % 16)) = some n := by
  have zero : hexValue '0' = some 0 := by decide
  rw [unitOf, zero, hexValue_hexDigit (n / 16) (by omega), hexValue_hexDigit (n % 16) (by omega)]
  exact congrArg some (by omega)

/-- A unit that is no half is a character by itself, whatever follows it. -/
theorem join_unit (whole : n < 0xD800) :
    join (.unit n :: ps) = (join ps).map (Char.ofNat n :: ·) := by
  have high : isHighHalf n = false := by simp [isHighHalf]; omega
  have low : isLowHalf n = false := by simp [isLowHalf]; omega
  match ps with
  | [] => simp [join, high, low]
  | .plain c :: ps => simp [join, high, low]
  | .unit m :: ps => simp [join, high, low]

/-- The characters that are written as a backslash and a letter, each with its letter. -/
def shortcuts : List (Char × Char) :=
  [('"', '"'), ('\\', '\\'), ('\x08', 'b'), ('\t', 't'), ('\n', 'n'), ('\x0c', 'f'), ('\r', 'r')]

theorem writeChar_shortcut : ∀ p ∈ shortcuts,
    writeChar p.1 = ['\\', p.2] ∧ escaped p.2 = some p.1 := by decide

/-- Every character is written as one piece that names it. -/
theorem exists_piece (c : Char) :
    ∃ p : Piece, p.WrittenAs (writeChar c) ∧ ∀ ps, join (p :: ps) = (join ps).map (c :: ·) := by
  -- a character has an escape of its own, or is written by its number, or stands for itself
  by_cases short : ∃ letter, (c, letter) ∈ shortcuts
  · obtain ⟨letter, mem⟩ := short
    obtain ⟨written, escape⟩ := writeChar_shortcut _ mem
    exact ⟨.plain c, written ▸ .letter escape, fun _ => rfl⟩
  · simp only [shortcuts, List.mem_cons, Prod.mk.injEq, List.not_mem_nil, or_false, exists_or,
      exists_and_left, exists_eq, and_true, not_or] at short
    obtain ⟨quote, backslash, backspace, tab, newline, feed, carriage⟩ := short
    simp only [writeChar, quote, backslash, backspace, tab, newline, feed, carriage, if_false]
    by_cases control : c.toNat < 0x20
    · rw [if_pos control]
      refine ⟨.unit c.toNat, .unit (unitOf_control control), fun ps => ?_⟩
      rw [join_unit (by omega), Char.ofNat_toNat]
    · rw [if_neg control]
      exact ⟨.plain c, .plain quote backslash (Nat.not_lt.mp control), fun _ => rfl⟩

/-- Between its quotes a text names its characters. -/
theorem exists_writtenAs (cs : List Char) :
    ∃ ps, WrittenAs ps (cs.flatMap writeChar) ∧ join ps = some cs := by
  induction cs with
  | nil => exact ⟨[], .nil, rfl⟩
  | cons c cs ih =>
    obtain ⟨ps, written, joined⟩ := ih
    obtain ⟨p, first, names⟩ := exists_piece c
    exact ⟨p :: ps, .cons first written, by rw [names, joined, Option.map_some]⟩

end Json.Literal

namespace Numeral

theorem digitChar_ne_zero : ∀ d < 10, d ≠ 0 → d.digitChar ≠ '0' := by decide

/-- A number that is not zero has no zero in front. -/
theorem head_ofNat {n : Nat} (positive : n ≠ 0) : (Decimal.ofNat n).head? ≠ some '0' := by
  induction n using Nat.strongRecOn with
  | ind n ih =>
    by_cases single : n < 10
    · rw [Decimal.ofNat, Nat.toDigits_of_lt_base single]
      simpa using digitChar_ne_zero n single positive
    · -- a longer numeral starts with the numeral of its tenth
      have ten : 10 ≤ n := Nat.not_lt.mp single
      have front := ih (n / 10) (by omega) (by omega)
      rw [Decimal.ofNat, Nat.toDigits_of_base_le (by decide) ten, ← Decimal.ofNat]
      cases digits : Decimal.ofNat (n / 10) with
      | nil => exact absurd digits (Decimal.ofNat_ne_nil _)
      | cons c cs => simpa [digits] using front

theorem isWhole_ofNat (n : Nat) : isWhole (Decimal.ofNat n) = true := by
  by_cases zero : n = 0
  · subst zero
    rfl
  · have head := head_ofNat zero
    have digits := Decimal.isDigits_ofNat n
    -- from here on only the first digit and being digits matter
    generalize Decimal.ofNat n = cs at head digits
    unfold isWhole
    split
    · rfl
    · exact (head rfl).elim
    · exact digits

/-- Digits without a point or a power of ten. -/
theorem whole_ofNat (n : Nat) :
    Spelling.WrittenAs ⟨false, Decimal.ofNat n, [], none⟩ (Decimal.ofNat n) ∧
      Spelling.WrittenAs ⟨true, Decimal.ofNat n, [], none⟩ ('-' :: Decimal.ofNat n) := by
  have bare := Spelling.WrittenAs.bare (isWhole_ofNat n) .absent .absent
  have minus := Spelling.WrittenAs.minus (isWhole_ofNat n) .absent .absent
  simp only [List.append_nil] at bare minus
  exact ⟨bare, minus⟩

/-- The digits of a 64-bit integer stand for it. -/
theorem exists_spelling {n : Int} (fits : InRange n) :
    ∃ s : Spelling, s.WrittenAs (Decimal.ofInt n) ∧ s.numeral = .whole n := by
  cases n with
  | ofNat n =>
    refine ⟨_, (whole_ofNat n).1, ?_⟩
    have whole : Spelling.integer? ⟨false, Decimal.ofNat n, [], none⟩ = some (Int.ofNat n) := by
      unfold Spelling.integer?
      rw [if_pos ⟨rfl, rfl⟩, Decimal.value_ofNat]
      exact if_neg (by simpa using fits)
    rw [Spelling.numeral, whole]
  | negSucc n =>
    refine ⟨_, (whole_ofNat (n + 1)).2, ?_⟩
    have whole : Spelling.integer? ⟨true, Decimal.ofNat (n + 1), [], none⟩ =
        some (Int.negSucc n) := by
      unfold Spelling.integer?
      rw [if_pos ⟨rfl, rfl⟩, Decimal.value_ofNat]
      have value : -((n + 1 : Nat) : Int) = Int.negSucc n := rfl
      simp only [if_true, value]
      exact if_neg (by simpa using fits)
    rw [Spelling.numeral, whole]

end Numeral

end CallExchange
