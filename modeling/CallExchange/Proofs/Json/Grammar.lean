import CallExchange.Json.Reader
import CallExchange.Text.Blank

/-!
# The grammar of structured data

What a text denotes, said without a reader. White space may stand around every value and every
name, a character may be written as itself or by an escape, a number with a fraction or with a power
of ten, and an object may give a name twice. So a value has many texts; a text has one value.

## Main definitions

* `Literal.Piece.WrittenAs`, `Literal.WrittenAs` — what stands between quotes
* `Numeral.Spelling.WrittenAs` — the parts of a number
* `Node.WrittenAs`, `Node.ItemsAs`, `Node.MembersAs` — a value, and what follows an opening bracket
* `Node.DenotedBy` — a value with white space around it is a text

## Main results

* `scan_eq_some_iff` — the pieces up to the closing quote
* `spelling?_eq_some_iff` — the parts of a number
-/

namespace CallExchange

open Text

/-! ### Between quotes -/

namespace Json.Literal

/-- A piece is a character that needs no escape, a one-letter escape, or the digits of a unit. -/
inductive Piece.WrittenAs : Piece → List Char → Prop
  | plain {c : Char} (quote : c ≠ '"') (backslash : c ≠ '\\') (visible : 0x20 ≤ c.toNat) :
    WrittenAs (.plain c) [c]
  | letter {c letter : Char} (escape : escaped letter = some c) :
    WrittenAs (.plain c) ['\\', letter]
  | unit {n : Nat} {a b c d : Char} (digits : unitOf a b c d = some n) :
    WrittenAs (.unit n) ['\\', 'u', a, b, c, d]

/-- Pieces are written one after the other. -/
inductive WrittenAs : List Piece → List Char → Prop
  | nil : WrittenAs [] []
  | cons {p : Piece} {ps : List Piece} {cs rest : List Char} (first : p.WrittenAs cs)
    (later : WrittenAs ps rest) : WrittenAs (p :: ps) (cs ++ rest)

variable {c : Char} {cs rest : List Char} {p : Piece} {ps : List Piece}

theorem scan_letter {letter : Char} (escape : escaped letter = some c) :
    scan ('\\' :: letter :: cs) = (scan cs).map fun r => (.plain c :: r.1, r.2) := by
  have unit : letter ≠ 'u' := by
    rintro rfl
    cases escape
  rw [scan.eq_4 _ _ fun _ _ _ _ _ same _ => unit same, escape]
  cases scan cs <;> rfl

theorem scan_piece (written : p.WrittenAs cs) :
    scan (cs ++ rest) = (scan rest).map fun r => (p :: r.1, r.2) := by
  cases written with
  | plain quote backslash visible =>
    rw [List.singleton_append, scan.eq_5 _ _ quote (fun _ _ _ _ _ same _ => backslash same)
      (fun _ _ same _ => backslash same), if_neg (Nat.not_lt.mpr visible)]
  | letter escape => exact scan_letter escape
  | unit digits =>
    rw [List.cons_append, List.cons_append, List.cons_append, List.cons_append, List.cons_append,
      List.singleton_append, scan.eq_3, digits]
    cases scan rest <;> rfl

theorem scan_append (written : WrittenAs ps cs) : scan (cs ++ '"' :: rest) = some (ps, rest) := by
  induction written with
  | nil => exact scan.eq_2 rest
  | cons first later ih =>
    rw [List.append_assoc, scan_piece first, ih]
    rfl

theorem writtenAs_of_scan (read : scan cs = some (ps, rest)) :
    ∃ body, WrittenAs ps body ∧ cs = body ++ '"' :: rest := by
  fun_induction scan cs generalizing ps rest with
  | case1 | case4 | case6 | case7 => cases read
  | case2 =>
    cases read
    exact ⟨[], .nil, rfl⟩
  | case3 _ _ _ _ _ _ _ _ later digits ih =>
    cases read
    obtain ⟨body, written, rfl⟩ := ih later
    exact ⟨_, .cons (.unit digits) written, rfl⟩
  | case5 _ _ _ _ _ _ later escape ih =>
    cases read
    obtain ⟨body, written, rfl⟩ := ih later
    exact ⟨_, .cons (.letter escape) written, rfl⟩
  | case8 c cs quote _ alone visible ih =>
    obtain ⟨⟨ps', rest'⟩, later, same⟩ := Option.map_eq_some_iff.mp read
    cases same
    obtain ⟨body, written, rfl⟩ := ih later
    -- a backslash has something after it, if only the closing quote
    have backslash : c ≠ '\\' := by
      rintro rfl
      cases body with
      | nil => exact alone _ _ rfl rfl
      | cons letter body => exact alone _ _ rfl rfl
    exact ⟨_, .cons (.plain quote backslash (Nat.not_lt.mp visible)) written, rfl⟩

/-- The pieces that are read are those that are written before the closing quote. -/
theorem scan_eq_some_iff :
    scan cs = some (ps, rest) ↔ ∃ body, WrittenAs ps body ∧ cs = body ++ '"' :: rest := by
  constructor
  · exact writtenAs_of_scan
  · rintro ⟨body, written, rfl⟩
    exact scan_append written

end Json.Literal

/-! ### Numbers -/

namespace Numeral

/-- The digits after the point, if there is one. -/
inductive FractionAs : List Char → List Char → Prop
  | absent : FractionAs [] []
  | present {cs : List Char} (digits : Decimal.isDigits cs = true) : FractionAs cs ('.' :: cs)

/-- The digits of a power of ten, perhaps under a sign. -/
inductive ExponentAs : Int → List Char → Prop
  | bare {cs : List Char} (digits : Decimal.isDigits cs = true) :
    ExponentAs (Decimal.value cs) cs
  | plus {cs : List Char} (digits : Decimal.isDigits cs = true) :
    ExponentAs (Decimal.value cs) ('+' :: cs)
  | minus {cs : List Char} (digits : Decimal.isDigits cs = true) :
    ExponentAs (-Decimal.value cs) ('-' :: cs)

/-- A power of ten after its mark, if there is one. -/
inductive PowerAs : Option Int → List Char → Prop
  | absent : PowerAs none []
  | present {mark : Char} {n : Int} {cs : List Char} (marks : mark = 'e' ∨ mark = 'E')
    (exponent : ExponentAs n cs) : PowerAs (some n) (mark :: cs)

/-- The parts of a number follow each other, after a minus sign if the number is negative. -/
inductive Spelling.WrittenAs : Spelling → List Char → Prop
  | bare {whole fraction fs ps : List Char} {power : Option Int} (digits : isWhole whole = true)
    (decimals : FractionAs fraction fs) (scale : PowerAs power ps) :
    WrittenAs ⟨false, whole, fraction, power⟩ (whole ++ (fs ++ ps))
  | minus {whole fraction fs ps : List Char} {power : Option Int} (digits : isWhole whole = true)
    (decimals : FractionAs fraction fs) (scale : PowerAs power ps) :
    WrittenAs ⟨true, whole, fraction, power⟩ ('-' :: (whole ++ (fs ++ ps)))

variable {cs fs ps whole fraction : List Char} {i : Int} {power : Option Int} {s : Spelling}

/-- Under each sign the digits of an exponent are a number to which the sign is applied. -/
theorem signed_eq_some_iff {sign : Int → Int} :
    (Option.map sign do
      let n ← digits? cs
      pure (n : Int)) = some i ↔ Decimal.isDigits cs = true ∧ sign (Decimal.value cs) = i := by
  unfold digits?
  by_cases digits : Decimal.isDigits cs = true <;> simp [digits]

theorem exponent?_eq_some_iff : exponent? cs = some i ↔ ExponentAs i cs := by
  constructor
  · intro read
    unfold exponent? at read
    split at read
    all_goals obtain ⟨digits, rfl⟩ := signed_eq_some_iff.mp read
    · exact .plus digits
    · exact .minus digits
    · exact .bare digits
  · intro written
    cases written with
    | plus digits => exact signed_eq_some_iff.mpr ⟨digits, rfl⟩
    | minus digits => exact signed_eq_some_iff.mpr ⟨digits, rfl⟩
    | bare digits =>
      obtain ⟨c, tail, rfl, digit⟩ := Decimal.exists_digit_of_isDigits digits
      rw [exponent?.eq_3]
      · exact signed_eq_some_iff.mpr ⟨digits, rfl⟩
      all_goals
        rintro _ ⟨⟩
        cases digit

theorem power?_eq_some_iff : power? cs = some power ↔ PowerAs power cs := by
  constructor
  · intro read
    unfold power? at read
    split at read
    case h_1 =>
      cases read
      exact .absent
    case h_2 =>
      obtain ⟨n, exponent, rfl⟩ := Option.map_eq_some_iff.mp read
      exact .present (.inl rfl) (exponent?_eq_some_iff.mp exponent)
    case h_3 =>
      obtain ⟨n, exponent, rfl⟩ := Option.map_eq_some_iff.mp read
      exact .present (.inr rfl) (exponent?_eq_some_iff.mp exponent)
    case h_4 => cases read
  · intro written
    cases written with
    | absent => rfl
    | present marks exponent =>
      rcases marks with rfl | rfl <;>
        rw [power?, exponent?_eq_some_iff.mpr exponent, Option.map_some]

/-- A power of ten does not start with a digit, nor with a point. -/
theorem PowerAs.stops (written : PowerAs power ps) :
    ∀ c ∈ ps.head?, c.isDigit = false ∧ c ≠ '.' := by
  cases written with
  | absent => nofun
  | present marks exponent =>
    rintro c ⟨⟩
    rcases marks with rfl | rfl <;> decide

/-- A fraction does not start with a digit, whatever follows it. -/
theorem FractionAs.stops (written : FractionAs fraction fs)
    (stops : ∀ c ∈ ps.head?, c.isDigit = false) : ∀ c ∈ (fs ++ ps).head?, c.isDigit = false := by
  cases written with
  | absent => exact stops
  | present digits =>
    rintro c ⟨⟩
    rfl

theorem isDigits_of_isWhole (digits : isWhole whole = true) : Decimal.isDigits whole = true := by
  unfold isWhole at digits
  split at digits
  · rfl
  · cases digits
  · exact digits

theorem unsigned?_eq_some_iff {negative : Bool} :
    unsigned? negative cs = some s ↔
      ∃ whole fraction power fs ps, isWhole whole = true ∧ FractionAs fraction fs ∧
        PowerAs power ps ∧ s = ⟨negative, whole, fraction, power⟩ ∧ cs = whole ++ (fs ++ ps) := by
  constructor
  · intro read
    have parts : cs.takeWhile Char.isDigit ++ cs.dropWhile Char.isDigit = cs :=
      List.takeWhile_append_dropWhile
    unfold unsigned? at read
    obtain ⟨digits, read⟩ := Option.ite_none_right_eq_some.mp read
    split at read
    · next tail point =>
      obtain ⟨some_digits, read⟩ := Option.ite_none_left_eq_some.mp read
      obtain ⟨power, scale, rfl⟩ := Option.map_eq_some_iff.mp read
      have fractional : Decimal.isDigits (tail.takeWhile Char.isDigit) = true :=
        Bool.and_eq_true_iff.mpr ⟨by simpa using some_digits, List.all_takeWhile⟩
      refine ⟨_, _, _, _, _, digits, .present fractional, power?_eq_some_iff.mp scale, rfl, ?_⟩
      rw [List.cons_append, List.takeWhile_append_dropWhile, ← point, parts]
    · obtain ⟨power, scale, rfl⟩ := Option.map_eq_some_iff.mp read
      exact ⟨_, _, _, [], _, digits, .absent, power?_eq_some_iff.mp scale, rfl, parts.symm⟩
  · rintro ⟨whole, fraction, power, fs, ps, digits, decimals, scale, rfl, rfl⟩
    have stops : ∀ c ∈ ps.head?, c.isDigit = false := fun c head => (scale.stops c head).1
    obtain ⟨taken, dropped⟩ := span_append
      (Decimal.isDigits_iff.mp (isDigits_of_isWhole digits)).2 (decimals.stops stops)
    simp only [unsigned?, taken, dropped, digits, if_true]
    cases decimals with
    | absent =>
      rw [List.nil_append]
      split
      · exact absurd rfl (scale.stops '.' rfl).2
      · rw [power?_eq_some_iff.mpr scale, Option.map_some]
    | present fractional =>
      obtain ⟨some_digits, inside⟩ := Decimal.isDigits_iff.mp fractional
      obtain ⟨taken, dropped⟩ := span_append inside stops
      simp only [List.cons_append, taken, dropped, List.isEmpty_iff, some_digits, if_false,
        power?_eq_some_iff.mpr scale, Option.map_some]

/-- The parts that are read of a number are those that are written. -/
theorem spelling?_eq_some_iff : spelling? cs = some s ↔ s.WrittenAs cs := by
  constructor
  · intro read
    unfold spelling? at read
    split at read
    all_goals
      obtain ⟨_, _, _, _, _, digits, decimals, scale, rfl, rfl⟩ := unsigned?_eq_some_iff.mp read
    · exact .minus digits decimals scale
    · exact .bare digits decimals scale
  · intro written
    cases written with
    | bare digits decimals scale =>
      obtain ⟨c, tail, rfl, digit⟩ := Decimal.exists_digit_of_isDigits (isDigits_of_isWhole digits)
      rw [List.cons_append, spelling?.eq_2, ← List.cons_append]
      · exact unsigned?_eq_some_iff.mpr ⟨_, _, _, _, _, digits, decimals, scale, rfl, rfl⟩
      · rintro _ ⟨⟩
        cases digit
    | minus digits decimals scale =>
      exact unsigned?_eq_some_iff.mpr ⟨_, _, _, _, _, digits, decimals, scale, rfl, rfl⟩

end Numeral

/-! ### Values -/

namespace Node

/-- White space. -/
def Gap (cs : List Char) : Prop := ∀ c ∈ cs, isGap c = true

/-- The name of a member, with white space around it. A name may be no text. -/
inductive NameAs : Option String → List Char → Prop
  | intro {ps : List Json.Literal.Piece} {before cs after : List Char} (gap : Gap before)
    (written : Json.Literal.WrittenAs ps cs) (gap' : Gap after) :
    NameAs ((Json.Literal.join ps).map String.ofList) (before ++ '"' :: (cs ++ '"' :: after))

mutual

/-- The characters of a value, from the first to the last. -/
inductive WrittenAs : Node → List Char → Prop
  | null : WrittenAs .null ['n', 'u', 'l', 'l']
  | yes : WrittenAs (.bool true) ['t', 'r', 'u', 'e']
  | no : WrittenAs (.bool false) ['f', 'a', 'l', 's', 'e']
  | number {s : Numeral.Spelling} {cs : List Char} (written : s.WrittenAs cs) :
    WrittenAs (.number s.numeral) cs
  | string {ps : List Json.Literal.Piece} {cs : List Char}
    (written : Json.Literal.WrittenAs ps cs) :
    WrittenAs (.string ((Json.Literal.join ps).map String.ofList)) ('"' :: (cs ++ ['"']))
  | emptyArray {between : List Char} (gap : Gap between) :
    WrittenAs (.array []) ('[' :: (between ++ [']']))
  | array {ns : List Node} {cs : List Char} (items : ItemsAs ns cs) :
    WrittenAs (.array ns) ('[' :: cs)
  | emptyObject {between : List Char} (gap : Gap between) :
    WrittenAs (.object []) ('{' :: (between ++ ['}']))
  | object {ms : List (Option String × Node)} {cs : List Char} (members : MembersAs ms cs) :
    WrittenAs (.object ms) ('{' :: cs)

/-- A value with white space around it. -/
inductive PaddedAs : Node → List Char → Prop
  | intro {n : Node} {before cs after : List Char} (gap : Gap before) (written : WrittenAs n cs)
    (gap' : Gap after) : PaddedAs n (before ++ (cs ++ after))

/-- One or more items, and the closing bracket. -/
inductive ItemsAs : List Node → List Char → Prop
  | last {n : Node} {cs : List Char} (item : PaddedAs n cs) : ItemsAs [n] (cs ++ [']'])
  | more {n : Node} {ns : List Node} {cs rest : List Char} (item : PaddedAs n cs)
    (later : ItemsAs ns rest) : ItemsAs (n :: ns) (cs ++ ',' :: rest)

/-- One or more members, and the closing brace. -/
inductive MembersAs : List (Option String × Node) → List Char → Prop
  | last {name : Option String} {n : Node} {ds cs : List Char} (named : NameAs name ds)
    (value : PaddedAs n cs) : MembersAs [(name, n)] (ds ++ ':' :: (cs ++ ['}']))
  | more {name : Option String} {n : Node} {ms : List (Option String × Node)}
    {ds cs rest : List Char} (named : NameAs name ds) (value : PaddedAs n cs)
    (later : MembersAs ms rest) : MembersAs ((name, n) :: ms) (ds ++ ':' :: (cs ++ ',' :: rest))

end

/-- A text denotes the one value that it holds. -/
def DenotedBy (n : Node) (s : String) : Prop := n.PaddedAs s.toList

end Node

end CallExchange
