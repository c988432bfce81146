/-!
# Blank text

White space is the set of characters with the Unicode property `White_Space`. Trimming takes
those characters off both ends of a text, and a text is blank when nothing is left of it.

## Main definitions

* `Text.isSpace` — the characters that separate and say nothing
* `Text.trim` — a text without the white space at its ends
* `Text.IsBlank` — nothing but white space

## Main results

* `isBlank_iff_trim_eq` — a text is blank exactly when trimming leaves the empty text
* `exists_trim`, `toList_trim` — trimming takes off the white space around a text, and no more
-/

namespace CallExchange.Text

/-- A character with the property `White_Space`. -/
def isSpace (c : Char) : Bool :=
  let n := c.toNat
  (0x9 ≤ n && n ≤ 0xD) || n == 0x20 || n == 0x85 || n == 0xA0 || n == 0x1680 ||
    (0x2000 ≤ n && n ≤ 0x200A) || n == 0x2028 || n == 0x2029 || n == 0x202F ||
    n == 0x205F || n == 0x3000

theorem isSpace_of_isDigit {c : Char} (digit : c.isDigit = true) : isSpace c = false := by
  simp only [Char.isDigit, Bool.and_eq_true, decide_eq_true_eq, UInt32.le_iff_toNat_le] at digit
  have low : 48 ≤ c.toNat := digit.1
  have high : c.toNat ≤ 57 := digit.2
  simp [isSpace]
  omega

/-- The characters after the white space that a list starts with. -/
def trimStart (cs : List Char) : List Char := cs.dropWhile isSpace

/-- The characters before the white space that a list ends with. -/
def trimEnd (cs : List Char) : List Char := (cs.reverse.dropWhile isSpace).reverse

/-- A text without the white space at its ends. -/
def trim (s : String) : String := String.ofList (trimEnd (trimStart s.toList))

/-- A text of nothing but white space. -/
def isBlank (s : String) : Bool := s.toList.all isSpace

/-- A text of nothing but white space, as a proposition. -/
abbrev IsBlank (s : String) : Prop := isBlank s = true

theorem dropWhile_eq_nil_iff_all {p : Char → Bool} {cs : List Char} :
    cs.dropWhile p = [] ↔ cs.all p = true := by
  induction cs with
  | nil => simp
  | cons c cs ih => by_cases h : p c = true <;> simp [h, ih]

/-- What a class of characters takes off a text ends where another character begins. -/
theorem span_append {p : Char → Bool} {cs rest : List Char} (inside : ∀ c ∈ cs, p c = true)
    (stops : ∀ c ∈ rest.head?, p c = false) :
    (cs ++ rest).takeWhile p = cs ∧ (cs ++ rest).dropWhile p = rest := by
  rw [List.takeWhile_append_of_pos inside, List.dropWhile_append_of_pos inside]
  cases rest with
  | nil => simp
  | cons c rest => simp [stops c rfl]

theorem trimEnd_eq_nil_iff {cs : List Char} : trimEnd cs = [] ↔ cs.all isSpace = true := by
  rw [trimEnd, List.reverse_eq_nil_iff, dropWhile_eq_nil_iff_all, List.all_reverse]

theorem all_trimStart {cs : List Char} :
    (trimStart cs).all isSpace = true ↔ cs.all isSpace = true := by
  induction cs with
  | nil => simp [trimStart]
  | cons c cs ih => by_cases h : isSpace c = true <;> simp_all [trimStart]

/-- A text is blank exactly when trimming leaves nothing of it. -/
theorem isBlank_iff_trim_eq {s : String} : IsBlank s ↔ trim s = "" := by
  have : trim s = "" ↔ trimEnd (trimStart s.toList) = [] := by
    constructor
    · intro h
      have := congrArg String.toList h
      simpa [trim] using this
    · intro h
      simp [trim, h]
  rw [this, trimEnd_eq_nil_iff, all_trimStart]
  rfl

/-- Trimming leaves a blank text blank, and no other. -/
theorem isBlank_trim {s : String} : IsBlank (trim s) ↔ IsBlank s := by
  have all_trimEnd (cs : List Char) : (trimEnd cs).all isSpace = true ↔ cs.all isSpace = true := by
    have reversed : (trimStart cs.reverse).all isSpace = true ↔ cs.reverse.all isSpace = true :=
      all_trimStart
    rwa [List.all_reverse, trimStart, ← List.all_reverse] at reversed
  rw [IsBlank, isBlank, trim, String.toList_ofList, all_trimEnd, all_trimStart]
  rfl

/-- What trimming takes off a text is white space. -/
theorem exists_trim (s : String) :
    ∃ before after, (∀ c ∈ before, isSpace c = true) ∧ (∀ c ∈ after, isSpace c = true) ∧
      s.toList = before ++ ((trim s).toList ++ after) := by
  have start : s.toList.takeWhile isSpace ++ trimStart s.toList = s.toList :=
    List.takeWhile_append_dropWhile
  have rest : trimEnd (trimStart s.toList) ++
      ((trimStart s.toList).reverse.takeWhile isSpace).reverse = trimStart s.toList := by
    rw [trimEnd, ← List.reverse_append, List.takeWhile_append_dropWhile, List.reverse_reverse]
  refine ⟨s.toList.takeWhile isSpace, ((trimStart s.toList).reverse.takeWhile isSpace).reverse,
    List.all_eq_true.mp List.all_takeWhile, fun c mem => ?_, ?_⟩
  · exact List.all_eq_true.mp List.all_takeWhile c (List.mem_reverse.mp mem)
  · rw [trim, String.toList_ofList, rest, start]

/-- Trimming takes off no more than the white space around a word. -/
theorem toList_trim {s : String} {before word after : List Char}
    (blank : ∀ c ∈ before, isSpace c = true) (blank' : ∀ c ∈ after, isSpace c = true)
    (solid : ∀ c ∈ word, isSpace c = false) (some_word : word ≠ [])
    (parts : s.toList = before ++ (word ++ after)) : (trim s).toList = word := by
  have start : trimStart s.toList = word ++ after := by
    rw [trimStart, parts]
    refine (span_append blank fun c head => solid c ?_).2
    rw [List.head?_append, List.head?_eq_some_head some_word] at head
    cases head
    exact List.head_mem some_word
  have backwards : (after.reverse ++ word.reverse).dropWhile isSpace = word.reverse :=
    (span_append (fun c mem => blank' c (List.mem_reverse.mp mem))
      fun c head => solid c (List.mem_reverse.mp (List.mem_of_mem_head? head))).2
  rw [trim, String.toList_ofList, start, trimEnd, List.reverse_append, backwards,
    List.reverse_reverse]

/-- An optional text with a blank one taken as absent. -/
def present (s : Option String) : Option String := s.filter fun t => !isBlank t

end CallExchange.Text
