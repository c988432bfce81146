import CallExchange.Proofs.Json.Grammar

/-!
# The reader accepts the grammar, and nothing else

A text is read as a tree exactly if the grammar says that it denotes the tree. In one direction
every value is shown to be read with as much fuel as it has characters, whatever stops it; in the
other, whatever is read has been written as the grammar says, whatever fuel there was.

## Main definitions

* `Node.Stopped`, `Node.Ends` — what can follow white space, and what can follow a value
* `Node.Accepts`, `Node.Sound` — the two directions for one amount of fuel

## Main results

* `ofText_eq_some_iff` — the tree of a text is the value that the text denotes
-/

namespace CallExchange

open Text

namespace Node

variable {fuel : Nat} {cs rest : List Char} {n : Node} {ns : List Node}
  {ms : List (Option String × Node)} {name : Option String}

/-! ### White space -/

/-- What follows a value does not go on with a number. -/
def Ends (rest : List Char) : Prop := ∀ c ∈ rest.head?, isNumberChar c = false

/-- What follows white space does not go on with white space. -/
def Stopped (rest : List Char) : Prop := ∀ c ∈ rest.head?, isGap c = false

theorem skip_cons {c : Char} (solid : isGap c = false) : skip (c :: cs) = c :: cs := by
  simp [skip, solid]

theorem skip_append (gap : Gap cs) : skip (cs ++ rest) = skip rest :=
  List.dropWhile_append_of_pos gap

theorem skip_of_stopped (stopped : Stopped rest) : skip rest = rest := by
  cases rest with
  | nil => rfl
  | cons c rest => exact skip_cons (stopped c rfl)

theorem stopped_skip (cs : List Char) : Stopped (skip cs) := by
  intro c head
  have solid := List.head?_dropWhile_not isGap cs
  rw [← skip, head] at solid
  exact solid

theorem skip_skip : skip (skip cs) = skip cs := skip_of_stopped (stopped_skip cs)

theorem exists_gap (cs : List Char) : ∃ gap, Gap gap ∧ cs = gap ++ skip cs :=
  ⟨cs.takeWhile isGap, List.all_eq_true.mp List.all_takeWhile,
    List.takeWhile_append_dropWhile.symm⟩

theorem isNumberChar_of_isGap {c : Char} (gap : isGap c = true) : isNumberChar c = false := by
  simp only [isGap, Bool.or_eq_true, decide_eq_true_eq] at gap
  rcases gap with ((rfl | rfl) | rfl) | rfl <;> rfl

theorem isGap_of_isNumberChar {c : Char} (number : isNumberChar c = true) : isGap c = false := by
  cases gap : isGap c with
  | false => rfl
  | true => exact absurd number (by simp [isNumberChar_of_isGap gap])

/-- White space ends a value, whatever follows it. -/
theorem Ends.append (ends : Ends rest) (gap : Gap cs) : Ends (cs ++ rest) := by
  cases cs with
  | nil => exact ends
  | cons c cs =>
    rintro _ ⟨⟩
    exact isNumberChar_of_isGap (gap c List.mem_cons_self)

/-! White space before a value, an item or a member is passed over. -/

theorem value_skip : value fuel (skip cs) = value fuel cs := by
  cases fuel with
  | zero => rfl
  | succ fuel => rw [value, value, skip_skip]

theorem items_skip : items fuel (skip cs) = items fuel cs := by
  cases fuel with
  | zero => rfl
  | succ fuel => rw [items, items, value_skip]

theorem members_skip : members fuel (skip cs) = members fuel cs := by
  cases fuel with
  | zero => rfl
  | succ fuel => rw [members, members, skip_skip]

theorem value_append (gap : Gap cs) : value fuel (cs ++ rest) = value fuel rest := by
  rw [← value_skip, skip_append gap, value_skip]

/-! ### Reading what is written -/

/-- Texts of the grammar are read with as much fuel as they have characters. -/
structure Accepts (fuel : Nat) : Prop where
  value : ∀ {n : Node} {cs rest : List Char}, n.WrittenAs cs → cs.length ≤ fuel → Ends rest →
    Node.value fuel (cs ++ rest) = some (n, rest)
  items : ∀ {ns : List Node} {cs rest : List Char}, ItemsAs ns cs → cs.length ≤ fuel →
    Node.items fuel (cs ++ rest) = some (ns, rest)
  members : ∀ {ms : List (Option String × Node)} {cs rest : List Char}, MembersAs ms cs →
    cs.length ≤ fuel → Node.members fuel (cs ++ rest) = some (ms, rest)

/-- A value is read with the white space before it, and the white space after it stands before what
follows. -/
theorem Accepts.padded (accepts : Accepts fuel) (rest : List Char) (written : n.PaddedAs cs)
    (enough : cs.length ≤ fuel) (ends : Ends rest) (stopped : Stopped rest) :
    ∃ left, Node.value fuel (cs ++ rest) = some (n, left) ∧ skip left = rest := by
  obtain ⟨gap, written, gap'⟩ := written
  rename_i before inner after
  rw [List.length_append, List.length_append] at enough
  refine ⟨after ++ rest, ?_, by rw [skip_append gap', skip_of_stopped stopped]⟩
  rw [List.append_assoc, List.append_assoc, value_append gap]
  exact accepts.value written (by omega) (ends.append gap')

/-- A value is read up to a mark after it. -/
theorem Accepts.marked (accepts : Accepts fuel) (mark : Char) (solid : isGap mark = false)
    (other : isNumberChar mark = false) (rest : List Char) (written : n.PaddedAs cs)
    (enough : cs.length ≤ fuel) :
    ∃ left, Node.value fuel (cs ++ mark :: rest) = some (n, left) ∧ skip left = mark :: rest := by
  refine accepts.padded (mark :: rest) written enough ?_ ?_
  · rintro _ ⟨⟩
    exact other
  · rintro _ ⟨⟩
    exact solid

theorem text?_append {ps : List Json.Literal.Piece} (written : Json.Literal.WrittenAs ps cs) :
    text? (cs ++ '"' :: rest) = some ((Json.Literal.join ps).map String.ofList, rest) := by
  rw [text?, Json.Literal.scan_append written, Option.map_some]

theorem Accepts.items_succ (accepts : Accepts fuel) (written : ItemsAs ns cs)
    (enough : cs.length ≤ fuel + 1) :
    Node.items (fuel + 1) (cs ++ rest) = some (ns, rest) := by
  -- the mark after an item has been counted for the unit of fuel that the item costs
  cases written with
  | last item =>
    rw [List.length_append, List.length_singleton] at enough
    obtain ⟨left, read, skipped⟩ := accepts.marked ']' rfl rfl rest item (by omega)
    rw [List.append_assoc, List.singleton_append, Node.items, read]
    simp only [skipped]
  | @more _ _ _ later item others =>
    rw [List.length_append, List.length_cons] at enough
    obtain ⟨left, read, skipped⟩ :=
      accepts.marked ',' rfl rfl (later ++ rest) item (by omega)
    rw [List.append_assoc, List.cons_append, Node.items, read]
    simp only [skipped, accepts.items others (by omega), Option.map_some]

/-- A name is read up to the colon after it. -/
theorem NameAs.read {ds : List Char} (named : NameAs name ds) (cs : List Char) :
    ∃ tail after, skip (ds ++ ':' :: cs) = '"' :: tail ∧ text? tail = some (name, after) ∧
      skip after = ':' :: cs := by
  obtain @⟨_, _, body, after, gap, written, gap'⟩ := named
  refine ⟨body ++ '"' :: (after ++ ':' :: cs), after ++ ':' :: cs, ?_, text?_append written, ?_⟩
  · rw [List.append_assoc, skip_append gap, List.cons_append, skip_cons (by decide),
      List.append_assoc, List.cons_append]
  · rw [skip_append gap', skip_cons (by decide)]

theorem Accepts.members_succ (accepts : Accepts fuel) (written : MembersAs ms cs)
    (enough : cs.length ≤ fuel + 1) :
    Node.members (fuel + 1) (cs ++ rest) = some (ms, rest) := by
  cases written with
  | @last _ _ _ value named item =>
    simp only [List.length_append, List.length_cons, List.length_nil] at enough
    obtain ⟨left, read, skipped⟩ := accepts.marked '}' rfl rfl rest item (by omega)
    obtain ⟨_, _, opened, text, colon⟩ := named.read (value ++ '}' :: rest)
    rw [List.append_assoc, List.cons_append, List.append_assoc, List.singleton_append,
      Node.members]
    simp only [opened, text, colon, read, skipped]
  | @more _ _ _ _ value later named item others =>
    simp only [List.length_append, List.length_cons] at enough
    obtain ⟨left, read, skipped⟩ :=
      accepts.marked ',' rfl rfl (later ++ rest) item (by omega)
    obtain ⟨_, _, opened, text, colon⟩ := named.read (value ++ ',' :: (later ++ rest))
    rw [List.append_assoc, List.cons_append, List.append_assoc, List.cons_append, Node.members]
    simp only [opened, text, colon, read, skipped, accepts.members others (by omega),
      Option.map_some]

/-! Numbers consist of the characters that the reader takes for a number. -/

theorem numberChars_of_isDigits (digits : Decimal.isDigits cs = true) :
    ∀ c ∈ cs, isNumberChar c = true := by
  intro c mem
  simp [isNumberChar, (Decimal.isDigits_iff.mp digits).2 c mem]

theorem numberChars_of_fraction {fraction : List Char} (written : Numeral.FractionAs fraction cs) :
    ∀ c ∈ cs, isNumberChar c = true := by
  cases written with
  | absent => nofun
  | present digits => exact List.forall_mem_cons.mpr ⟨rfl, numberChars_of_isDigits digits⟩

theorem numberChars_of_power {power : Option Int} (written : Numeral.PowerAs power cs) :
    ∀ c ∈ cs, isNumberChar c = true := by
  cases written with
  | absent => nofun
  | present marks exponent =>
    refine List.forall_mem_cons.mpr ⟨by rcases marks with rfl | rfl <;> rfl, ?_⟩
    cases exponent with
    | bare digits => exact numberChars_of_isDigits digits
    | plus digits | minus digits =>
      exact List.forall_mem_cons.mpr ⟨rfl, numberChars_of_isDigits digits⟩

theorem numberChars_of_spelling {s : Numeral.Spelling} (written : s.WrittenAs cs) :
    cs ≠ [] ∧ ∀ c ∈ cs, isNumberChar c = true := by
  have parts {whole fraction fs ps : List Char} {power : Option Int}
      (digits : Numeral.isWhole whole = true) (decimals : Numeral.FractionAs fraction fs)
      (scale : Numeral.PowerAs power ps) :
      ∀ c ∈ whole ++ (fs ++ ps), isNumberChar c = true :=
    List.forall_mem_append.mpr ⟨numberChars_of_isDigits (Numeral.isDigits_of_isWhole digits),
      List.forall_mem_append.mpr ⟨numberChars_of_fraction decimals, numberChars_of_power scale⟩⟩
  cases written with
  | bare digits decimals scale =>
    obtain ⟨c, tail, rfl, -⟩ :=
      Decimal.exists_digit_of_isDigits (Numeral.isDigits_of_isWhole digits)
    exact ⟨List.cons_ne_nil _ _, parts digits decimals scale⟩
  | minus digits decimals scale =>
    exact ⟨List.cons_ne_nil _ _, List.forall_mem_cons.mpr ⟨rfl, parts digits decimals scale⟩⟩

theorem value_number {c : Char} (number : isNumberChar c = true) :
    value (fuel + 1) (c :: cs) =
      (Numeral.read? ((c :: cs).takeWhile isNumberChar)).map fun n =>
        (.number n, (c :: cs).dropWhile isNumberChar) := by
  have other {d : Char} (bad : isNumberChar d = false) : c ≠ d := by
    rintro rfl
    exact Bool.false_ne_true (bad.symm.trans number)
  rw [value, skip_cons (isGap_of_isNumberChar number)]
  split
  -- no other value starts with a character of a number
  case h_7 => rfl
  all_goals
    next same => exact (other (by decide) (List.cons.inj same).1).elim

theorem value_spelling {s : Numeral.Spelling} (written : s.WrittenAs cs) (ends : Ends rest) :
    value (fuel + 1) (cs ++ rest) = some (.number s.numeral, rest) := by
  obtain ⟨filled, numbers⟩ := numberChars_of_spelling written
  obtain ⟨taken, dropped⟩ := span_append numbers ends
  obtain ⟨c, tail, rfl⟩ := List.exists_cons_of_ne_nil filled
  rw [List.cons_append] at taken dropped ⊢
  rw [value_number (numbers c List.mem_cons_self), taken, dropped, Numeral.read?,
    Numeral.spelling?_eq_some_iff.mpr written]
  rfl

/-- What a value starts with is no white space, and not what closes a list. -/
theorem WrittenAs.starts (written : n.WrittenAs cs) :
    ∃ c tail, cs = c :: tail ∧ isGap c = false ∧ c ≠ ']' := by
  cases written with
  | number written =>
    obtain ⟨filled, numbers⟩ := numberChars_of_spelling written
    obtain ⟨c, tail, rfl⟩ := List.exists_cons_of_ne_nil filled
    have number : isNumberChar c = true := numbers c List.mem_cons_self
    refine ⟨c, tail, rfl, isGap_of_isNumberChar number, ?_⟩
    rintro rfl
    cases number
  | _ => exact ⟨_, _, rfl, rfl, by decide⟩

theorem PaddedAs.starts (written : n.PaddedAs cs) (rest : List Char) :
    ∃ c tail, skip (cs ++ rest) = c :: tail ∧ c ≠ ']' := by
  obtain ⟨gap, written, -⟩ := written
  obtain ⟨c, tail, rfl, solid, opened⟩ := written.starts
  rw [List.append_assoc, List.append_assoc, skip_append gap, List.cons_append, skip_cons solid]
  exact ⟨c, _, rfl, opened⟩

theorem ItemsAs.starts (written : ItemsAs ns cs) (rest : List Char) :
    ∃ c tail, skip (cs ++ rest) = c :: tail ∧ c ≠ ']' := by
  cases written with
  | last item | more item =>
    rw [List.append_assoc]
    exact item.starts _

theorem MembersAs.starts (written : MembersAs ms cs) (rest : List Char) :
    ∃ tail, skip (cs ++ rest) = '"' :: tail := by
  cases written with
  | last named | more named =>
    obtain ⟨gap, -, -⟩ := named
    rw [List.append_assoc, List.append_assoc, skip_append gap, List.cons_append,
      skip_cons (by decide)]
    exact ⟨_, rfl⟩

theorem Accepts.value_succ (accepts : Accepts fuel) (written : n.WrittenAs cs)
    (enough : cs.length ≤ fuel + 1) (ends : Ends rest) :
    Node.value (fuel + 1) (cs ++ rest) = some (n, rest) := by
  cases written with
  | null | yes | no => rfl
  | number written => exact value_spelling written ends
  | string written =>
    rw [List.cons_append, List.append_assoc, List.singleton_append, Node.value,
      skip_cons (by decide)]
    simp only [text?_append written, Option.map_some]
  | emptyArray gap =>
    rw [List.cons_append, List.append_assoc, List.singleton_append, Node.value,
      skip_cons (by decide)]
    simp only [skip_append gap, skip_cons (show isGap ']' = false by decide)]
  | emptyObject gap =>
    rw [List.cons_append, List.append_assoc, List.singleton_append, Node.value,
      skip_cons (by decide)]
    simp only [skip_append gap, skip_cons (show isGap '}' = false by decide)]
  | array written =>
    rw [List.length_cons] at enough
    obtain ⟨c, tail, skipped, opened⟩ := written.starts rest
    have read : Node.items fuel _ = some (_, rest) := accepts.items written (by omega)
    rw [← items_skip, skipped] at read
    rw [List.cons_append, Node.value, skip_cons (by decide)]
    simp only [skipped]
    split
    · next closed => exact (opened (List.cons.inj closed).1).elim
    · rw [read, Option.map_some]
  | object written =>
    rw [List.length_cons] at enough
    obtain ⟨tail, skipped⟩ := written.starts rest
    have read : Node.members fuel _ = some (_, rest) := accepts.members written (by omega)
    rw [← members_skip, skipped] at read
    rw [List.cons_append, Node.value, skip_cons (by decide)]
    simp only [skipped]
    exact congrArg (Option.map fun r => (Node.object r.1, r.2)) read

/-- Texts of the grammar are read, given enough fuel. -/
theorem accepts (fuel : Nat) : Accepts fuel := by
  induction fuel with
  | zero =>
    -- there is nothing to read without a character
    refine ⟨fun written enough _ => ?_, fun written enough => ?_, fun written enough => ?_⟩
    · obtain ⟨c, tail, rfl, -⟩ := written.starts
      cases enough
    · cases written <;> simp at enough
    · cases written <;> simp at enough
  | succ fuel ih => exact ⟨ih.value_succ, ih.items_succ, ih.members_succ⟩

/-! ### What is read has been written -/

/-- Whatever is read with some fuel is written as the grammar says. -/
structure Sound (fuel : Nat) : Prop where
  value : ∀ {cs n rest}, Node.value fuel cs = some (n, rest) →
    ∃ gap inner, Gap gap ∧ n.WrittenAs inner ∧ cs = gap ++ (inner ++ rest)
  items : ∀ {cs ns rest}, Node.items fuel cs = some (ns, rest) →
    ∃ inner, ItemsAs ns inner ∧ cs = inner ++ rest
  members : ∀ {cs ms rest}, Node.members fuel cs = some (ms, rest) →
    ∃ inner, MembersAs ms inner ∧ cs = inner ++ rest

/-- The white space around a value belongs to it. -/
theorem Sound.padded (sound : Sound fuel) {left : List Char}
    (read : Node.value fuel cs = some (n, left)) :
    ∃ inner, n.PaddedAs inner ∧ cs = inner ++ skip left := by
  obtain ⟨before, inner, gap, written, rfl⟩ := sound.value read
  obtain ⟨after, gap', split⟩ := exists_gap left
  refine ⟨before ++ (inner ++ after), .intro gap written gap', ?_⟩
  rw [List.append_assoc, List.append_assoc, ← split]

theorem Sound.items_succ (sound : Sound fuel)
    (read : Node.items (fuel + 1) cs = some (ns, rest)) :
    ∃ inner, ItemsAs ns inner ∧ cs = inner ++ rest := by
  rw [Node.items] at read
  split at read
  · cases read
  · next first =>
    obtain ⟨inner, item, rfl⟩ := sound.padded first
    split at read
    · next more =>
      obtain ⟨r, others, same⟩ := Option.map_eq_some_iff.mp read
      cases same
      obtain ⟨later, written, split⟩ := sound.items others
      exact ⟨_, .more item written, by rw [more, split, List.append_assoc, List.cons_append]⟩
    · next last =>
      cases read
      exact ⟨_, .last item, by rw [last, List.append_assoc, List.singleton_append]⟩
    · cases read

/-- A name is read with the white space around it. -/
theorem nameAs_of_text? {between : List Char} (opened : skip cs = '"' :: between)
    (read : text? between = some (name, rest)) :
    ∃ ds, NameAs name ds ∧ cs = ds ++ skip rest := by
  obtain ⟨⟨ps, left⟩, scanned, same⟩ := Option.map_eq_some_iff.mp read
  cases same
  obtain ⟨body, written, rfl⟩ := Json.Literal.scan_eq_some_iff.mp scanned
  obtain ⟨before, gap, split⟩ := exists_gap cs
  obtain ⟨after, gap', split'⟩ := exists_gap rest
  refine ⟨_, .intro gap written gap', ?_⟩
  rw [split, opened, List.append_assoc, List.cons_append, List.append_assoc, List.cons_append,
    ← split']

theorem Sound.members_succ (sound : Sound fuel)
    (read : Node.members (fuel + 1) cs = some (ms, rest)) :
    ∃ inner, MembersAs ms inner ∧ cs = inner ++ rest := by
  rw [Node.members] at read
  split at read
  case h_2 => cases read
  next opened =>
  split at read
  · cases read
  next named =>
  obtain ⟨ds, named, rfl⟩ := nameAs_of_text? opened named
  split at read
  case h_2 => cases read
  next colon =>
  rw [colon]
  split at read
  · cases read
  next first =>
  obtain ⟨inner, value, rfl⟩ := sound.padded first
  split at read
  · next more =>
    obtain ⟨r, others, same⟩ := Option.map_eq_some_iff.mp read
    cases same
    obtain ⟨later, written, split⟩ := sound.members others
    exact ⟨_, .more named value written, by simp [more, split]⟩
  · next last =>
    cases read
    exact ⟨_, .last named value, by simp [last]⟩
  · cases read

theorem PaddedAs.append {gap : List Char} (white : Gap gap) (written : n.PaddedAs cs) :
    n.PaddedAs (gap ++ cs) := by
  obtain ⟨gap, written, gap'⟩ := written
  rw [← List.append_assoc]
  exact .intro (List.forall_mem_append.mpr ⟨white, gap⟩) written gap'

theorem ItemsAs.append {gap : List Char} (white : Gap gap) (written : ItemsAs ns cs) :
    ItemsAs ns (gap ++ cs) := by
  cases written with
  | last item =>
    rw [← List.append_assoc]
    exact .last (item.append white)
  | more item later =>
    rw [← List.append_assoc]
    exact .more (item.append white) later

theorem MembersAs.append {gap : List Char} (white : Gap gap) (written : MembersAs ms cs) :
    MembersAs ms (gap ++ cs) := by
  have name {name : Option String} {ds : List Char} (named : NameAs name ds) :
      NameAs name (gap ++ ds) := by
    obtain ⟨gap, written, gap'⟩ := named
    rw [← List.append_assoc]
    exact .intro (List.forall_mem_append.mpr ⟨white, gap⟩) written gap'
  cases written with
  | last named value =>
    rw [← List.append_assoc]
    exact .last (name named) value
  | more named value later =>
    rw [← List.append_assoc]
    exact .more (name named) value later

theorem Sound.value_succ (sound : Sound fuel)
    (read : Node.value (fuel + 1) cs = some (n, rest)) :
    ∃ gap inner, Gap gap ∧ n.WrittenAs inner ∧ cs = gap ++ (inner ++ rest) := by
  obtain ⟨gap, white, split⟩ := exists_gap cs
  -- the white space in front is passed over, and from then on the first character decides
  suffices written : ∃ inner, n.WrittenAs inner ∧ skip cs = inner ++ rest by
    obtain ⟨inner, written, same⟩ := written
    exact ⟨gap, inner, white, written, by rw [← same, ← split]⟩
  rw [Node.value] at read
  split at read
  case h_1 tail opened =>
    obtain ⟨between, white', split'⟩ := exists_gap tail
    split at read
    · next closed =>
      cases read
      exact ⟨_, .emptyObject white', by rw [opened, split', closed]; simp⟩
    · obtain ⟨r, inner, same⟩ := Option.map_eq_some_iff.mp read
      cases same
      obtain ⟨inner, written, same⟩ := sound.members inner
      exact ⟨_, .object (written.append white'), by rw [opened, split', same]; simp⟩
  case h_2 tail opened =>
    obtain ⟨between, white', split'⟩ := exists_gap tail
    split at read
    · next closed =>
      cases read
      exact ⟨_, .emptyArray white', by rw [opened, split', closed]; simp⟩
    · obtain ⟨r, inner, same⟩ := Option.map_eq_some_iff.mp read
      cases same
      obtain ⟨inner, written, same⟩ := sound.items inner
      exact ⟨_, .array (written.append white'), by rw [opened, split', same]; simp⟩
  case h_3 tail opened =>
    obtain ⟨⟨value, left⟩, named, same⟩ := Option.map_eq_some_iff.mp read
    cases same
    obtain ⟨⟨ps, left'⟩, scanned, same⟩ := Option.map_eq_some_iff.mp named
    cases same
    obtain ⟨body, written, rfl⟩ := Json.Literal.scan_eq_some_iff.mp scanned
    exact ⟨_, .string written, by rw [opened]; simp⟩
  case h_4 opened =>
    cases read
    exact ⟨_, .yes, opened⟩
  case h_5 opened =>
    cases read
    exact ⟨_, .no, opened⟩
  case h_6 opened =>
    cases read
    exact ⟨_, .null, opened⟩
  case h_7 =>
    obtain ⟨numeral, spelled, same⟩ := Option.map_eq_some_iff.mp read
    cases same
    obtain ⟨s, parts, rfl⟩ := Option.map_eq_some_iff.mp spelled
    exact ⟨_, .number (Numeral.spelling?_eq_some_iff.mp parts),
      List.takeWhile_append_dropWhile.symm⟩

/-- What is read is written as the grammar says, however much fuel there is. -/
theorem sound (fuel : Nat) : Sound fuel := by
  induction fuel with
  | zero => exact ⟨nofun, nofun, nofun⟩
  | succ fuel ih => exact ⟨ih.value_succ, ih.items_succ, ih.members_succ⟩

/-- The tree of a text is the value that the text denotes. -/
theorem ofText_eq_some_iff {s : String} : ofText s = some n ↔ n.DenotedBy s := by
  simp only [ofText, DenotedBy]
  constructor
  · intro read
    split at read
    · next value =>
      obtain ⟨closed, same⟩ := Option.ite_none_right_eq_some.mp read
      cases same
      obtain ⟨inner, written, split⟩ := (sound _).padded value
      rw [split, List.isEmpty_iff.mp closed, List.append_nil]
      exact written
    · cases read
  · intro written
    obtain ⟨left, read, skipped⟩ :=
      (accepts (2 * s.toList.length + 2)).padded [] written (by omega) nofun nofun
    rw [List.append_nil] at read
    simp only [read, skipped]
    rfl

end Node

end CallExchange
