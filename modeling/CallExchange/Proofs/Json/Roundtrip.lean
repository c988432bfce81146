import CallExchange.Proofs.Json.Data
import CallExchange.Proofs.Json.Literals
import CallExchange.Proofs.Json.Reading

/-!
# Written data is read back

The text of some data denotes the tree of the data. Conversely every integer in the tree of a text
fits 64 bits, so that what is read from the text can be written.

## Main results

* `writtenAs_write` — data is written as the grammar says
* `ofText_toText` — the text of data denotes its tree
* `fits_of_text` — the tree of a text has no integers beyond 64 bits
-/

namespace CallExchange

open Text

namespace Node

variable {cs rest : List Char} {j : Json} {n : Node}

/-! ### What is written -/

theorem gap_nil : Gap [] := nofun

/-- A value needs no white space around it. -/
theorem WrittenAs.padded (written : n.WrittenAs cs) : n.PaddedAs cs := by
  have padded := PaddedAs.intro gap_nil written gap_nil
  rwa [List.nil_append, List.append_nil] at padded

theorem writtenAs_string (s : String) :
    (Node.string (some s)).WrittenAs (Json.Literal.write s) := by
  obtain ⟨ps, written, joined⟩ := Json.Literal.exists_writtenAs s.toList
  have string := WrittenAs.string written
  rwa [joined, Option.map_some, String.ofList_toList] at string

theorem nameAs_write (name : String) : NameAs (some name) (Json.Literal.write name) := by
  obtain ⟨ps, written, joined⟩ := Json.Literal.exists_writtenAs name.toList
  have named := NameAs.intro gap_nil written gap_nil
  rwa [joined, Option.map_some, String.ofList_toList] at named

theorem itemsAs_write {j : Json} {js : List Json} (first : j.toNode.WrittenAs j.write)
    (others : ∀ k ∈ js, k.toNode.WrittenAs k.write) :
    ItemsAs (j.toNode :: js.map Json.toNode) (j.write ++ Json.write.writeItems js) := by
  induction js generalizing j with
  | nil => exact .last first.padded
  | cons k ks ih =>
    exact .more first.padded
      (ih (others k List.mem_cons_self) fun m mem => others m (List.mem_cons_of_mem _ mem))

theorem membersAs_write {name : String} {j : Json} {ms : List (String × Json)}
    (first : j.toNode.WrittenAs j.write) (others : ∀ m ∈ ms, m.2.toNode.WrittenAs m.2.write) :
    MembersAs ((some name, j.toNode) :: ms.map fun m => (some m.1, m.2.toNode))
      (Json.Literal.write name ++ ':' :: (j.write ++ Json.write.writeMembers ms)) := by
  induction ms generalizing name j with
  | nil => exact .last (nameAs_write name) first.padded
  | cons m ms ih =>
    exact .more (nameAs_write name) first.padded
      (ih (others m List.mem_cons_self) fun k mem => others k (List.mem_cons_of_mem _ mem))

/-- Data whose integers fit 64 bits is written as the grammar says. -/
theorem writtenAs_write (fits : j.Fits) : j.toNode.WrittenAs j.write := by
  induction j using Json.induct with
  | null => exact .null
  | bool b =>
    cases b with
    | true => exact .yes
    | false => exact .no
  | string s => exact writtenAs_string s
  | int n =>
    cases fits with
    | number fits =>
      obtain ⟨s, written, whole⟩ := Numeral.exists_spelling (fits n rfl)
      rw [Json.toNode, ← whole]
      exact .number written
  | array items ih =>
    have written : ∀ j ∈ items, j.toNode.WrittenAs j.write := fun j mem =>
      ih j mem (Json.fits_array.mp fits j mem)
    rw [Json.toNode_array]
    cases items with
    | nil => exact .emptyArray gap_nil
    | cons j js =>
      exact .array (itemsAs_write (written j List.mem_cons_self) fun k mem =>
        written k (List.mem_cons_of_mem _ mem))
  | object members ih =>
    have written : ∀ m ∈ members, m.2.toNode.WrittenAs m.2.write := fun m mem =>
      ih m mem (Json.fits_object.mp fits m mem)
    rw [Json.toNode_object]
    cases members with
    | nil => exact .emptyObject gap_nil
    | cons m ms =>
      exact .object (membersAs_write (written m List.mem_cons_self) fun k mem =>
        written k (List.mem_cons_of_mem _ mem))

/-- The text of data denotes the tree of the data. -/
theorem ofText_toText (fits : j.Fits) : ofText j.toText = some j.toNode := by
  rw [ofText_eq_some_iff, DenotedBy, Json.toText, String.toList_ofList]
  exact (writtenAs_write fits).padded

/-! ### What a text can denote -/

theorem inRange_of_integer {s : Numeral.Spelling} {i : Int} (named : s.integer? = some i) :
    Numeral.InRange i := by
  simp only [Numeral.Spelling.integer?, Option.ite_none_right_eq_some, Option.ite_none_left_eq_some,
    not_or, not_not, Option.some.injEq] at named
  obtain ⟨-, ⟨-, within⟩, rfl⟩ := named
  exact within

theorem inRange_of_numeral {s : Numeral.Spelling} {i : Int} (whole : s.numeral = .whole i) :
    Numeral.InRange i := by
  unfold Numeral.Spelling.numeral at whole
  split at whole
  · next named =>
    cases whole
    exact inRange_of_integer named
  · split at whole <;> cases whole

theorem PaddedAs.writtenAs (padded : n.PaddedAs cs) : ∃ ds, n.WrittenAs ds := by
  obtain ⟨-, written, -⟩ := padded
  exact ⟨_, written⟩

theorem ItemsAs.writtenAs_of_mem {ns : List Node} (items : ItemsAs ns cs) (mem : n ∈ ns) :
    ∃ ds, n.WrittenAs ds := by
  induction ns generalizing cs with
  | nil => cases mem
  | cons first ns ih =>
    cases items with
    | last item =>
      rw [List.mem_singleton.mp mem]
      exact item.writtenAs
    | more item later =>
      rcases List.mem_cons.mp mem with rfl | mem
      · exact item.writtenAs
      · exact ih later mem

theorem MembersAs.writtenAs_of_mem {ms : List (Option String × Node)}
    {m : Option String × Node} (members : MembersAs ms cs) (mem : m ∈ ms) :
    ∃ ds, m.2.WrittenAs ds := by
  induction ms generalizing cs with
  | nil => cases mem
  | cons first ms ih =>
    cases members with
    | last named value =>
      rw [List.mem_singleton.mp mem]
      exact value.writtenAs
    | more named value later =>
      rcases List.mem_cons.mp mem with rfl | mem
      · exact value.writtenAs
      · exact ih later mem

/-- What is written has no integers beyond 64 bits. -/
theorem fits_of_writtenAs (written : n.WrittenAs cs) : n.Fits := by
  induction n using Node.induct generalizing cs with
  | null => exact .null
  | bool => exact .bool
  | string => exact .string
  | number =>
    cases written with
    | number written => exact .number fun i whole => inRange_of_numeral whole
  | array ns ih =>
    refine .array fun n mem => ?_
    cases written with
    | emptyArray => cases mem
    | array items =>
      obtain ⟨ds, written⟩ := items.writtenAs_of_mem mem
      exact ih n mem written
  | object ms ih =>
    refine .object fun m mem => ?_
    cases written with
    | emptyObject => cases mem
    | object members =>
      obtain ⟨ds, written⟩ := members.writtenAs_of_mem mem
      exact ih m mem written

/-- The tree of a text has no integers beyond 64 bits. -/
theorem fits_of_text {s : String} (read : ofText s = some n) : n.Fits := by
  obtain ⟨ds, written⟩ := (ofText_eq_some_iff.mp read).writtenAs
  exact fits_of_writtenAs written

end Node

end CallExchange
