import CallExchange.Json.Basic
import Mathlib.Data.String.Basic

/-!
# Data and trees

Data is a tree without its loose ends: whoever reads the tree of some data gets the data again, and
what is read from a tree lists the members of each object in the order of their names.

## Main definitions

* `Json.induct`, `Node.induct` — induction with a hypothesis for every item and every member
* `Json.Fits`, `Node.Fits` — every integer fits 64 bits

## Main results

* `ofNode_toNode` — data in order is read back from its tree
* `normal_of_held`, `depth_of_sound` — what is read is in order, and nests no deeper than is allowed
-/

namespace CallExchange

/-! ### Induction -/

/-- Induction over data. -/
@[elab_as_elim]
theorem Json.induct {P : Json → Prop} (null : P .null) (bool : ∀ b, P (.bool b))
    (int : ∀ n, P (.int n)) (string : ∀ s, P (.string s))
    (array : ∀ items, (∀ j ∈ items, P j) → P (.array items))
    (object : ∀ members, (∀ m ∈ members, P m.2) → P (.object members)) (j : Json) : P j :=
  @Json.rec P (fun items => ∀ j ∈ items, P j) (fun members => ∀ m ∈ members, P m.2)
    (fun m => P m.2)
    null bool int string array object nofun
    (fun _ _ first rest => List.forall_mem_cons.mpr ⟨first, rest⟩) nofun
    (fun _ _ first rest => List.forall_mem_cons.mpr ⟨first, rest⟩) (fun _ _ value => value) j

/-- Induction over trees. -/
@[elab_as_elim]
theorem Node.induct {P : Node → Prop} (null : P .null) (bool : ∀ b, P (.bool b))
    (number : ∀ n, P (.number n)) (string : ∀ value, P (.string value))
    (array : ∀ items, (∀ n ∈ items, P n) → P (.array items))
    (object : ∀ members, (∀ m ∈ members, P m.2) → P (.object members)) (n : Node) : P n :=
  @Node.rec P (fun items => ∀ n ∈ items, P n) (fun members => ∀ m ∈ members, P m.2)
    (fun m => P m.2)
    null bool number string array object nofun
    (fun _ _ first rest => List.forall_mem_cons.mpr ⟨first, rest⟩) nofun
    (fun _ _ first rest => List.forall_mem_cons.mpr ⟨first, rest⟩) (fun _ _ value => value) n

namespace Json

variable {j : Json} {items : List Json} {members : List (String × Json)} {d : Nat}

/-! ### Data by its parts -/

theorem nodes_eq_map (items : List Json) : toNode.nodes items = items.map toNode := by
  induction items with
  | nil => rfl
  | cons j js ih => simp [toNode.nodes, ih]

theorem namedNodes_eq_map (members : List (String × Json)) :
    toNode.namedNodes members = members.map fun m => (some m.1, m.2.toNode) := by
  induction members with
  | nil => rfl
  | cons m rest ih => simp [toNode.namedNodes, ih]

@[simp] theorem toNode_array : (array items).toNode = .array (items.map toNode) := by
  rw [toNode, nodes_eq_map]

@[simp] theorem toNode_object :
    (object members).toNode = .object (members.map fun m => (some m.1, m.2.toNode)) := by
  rw [toNode, namedNodes_eq_map]

theorem normal_array : (array items).Normal ↔ ∀ j ∈ items, j.Normal := by
  have all (items : List Json) : Normal.allNormal items ↔ ∀ j ∈ items, j.Normal := by
    induction items with
    | nil => simp [Normal.allNormal]
    | cons j js ih => simp [Normal.allNormal, ih]
  rw [Normal, all]

theorem normal_object :
    (object members).Normal ↔
      (members.map (·.1)).Pairwise (· < ·) ∧ ∀ m ∈ members, m.2.Normal := by
  have all (members : List (String × Json)) :
      Normal.membersNormal members ↔ ∀ m ∈ members, m.2.Normal := by
    induction members with
    | nil => simp [Normal.membersNormal]
    | cons m rest ih => simp [Normal.membersNormal, ih]
  rw [Normal, all]

theorem depth_array_le : (array items).depth ≤ d + 1 ↔ ∀ j ∈ items, j.depth ≤ d := by
  have all (items : List Json) : depth.depthOfList items ≤ d ↔ ∀ j ∈ items, j.depth ≤ d := by
    induction items with
    | nil => simp [depth.depthOfList]
    | cons j js ih => simp [depth.depthOfList, ih]
  rw [depth, Nat.add_le_add_iff_right, all]

theorem depth_object_le : (object members).depth ≤ d + 1 ↔ ∀ m ∈ members, m.2.depth ≤ d := by
  have all (members : List (String × Json)) :
      depth.depthOfMembers members ≤ d ↔ ∀ m ∈ members, m.2.depth ≤ d := by
    induction members with
    | nil => simp [depth.depthOfMembers]
    | cons m rest ih => simp [depth.depthOfMembers, ih]
  rw [depth, Nat.add_le_add_iff_right, all]

end Json

namespace Node

variable {items : List Node} {members : List (Option String × Node)} {d : Nat}

theorem isSound_array :
    (array items).isSound (d + 1) = true ↔ ∀ n ∈ items, n.isSound d = true := by
  have all (items : List Node) :
      isSound.allSound d items = true ↔ ∀ n ∈ items, n.isSound d = true := by
    induction items with
    | nil => simp [isSound.allSound]
    | cons n ns ih => simp [isSound.allSound, ih]
  rw [isSound, all]

theorem isSound_object :
    (object members).isSound (d + 1) = true ↔
      ∀ m ∈ members, m.1.isSome = true ∧ m.2.isSound d = true := by
  have all (members : List (Option String × Node)) :
      isSound.membersSound d members = true ↔
        ∀ m ∈ members, m.1.isSome = true ∧ m.2.isSound d = true := by
    induction members with
    | nil => simp [isSound.membersSound]
    | cons m rest ih => simp [isSound.membersSound, ih, and_assoc]
  rw [isSound, all]

end Node

namespace Json

variable {j : Json} {items : List Json} {members : List (String × Json)} {d : Nat}

/-- Data that nests within a limit is a sound tree. -/
theorem isSound_toNode (j : Json) {d : Nat} (within : j.depth ≤ d) : j.toNode.isSound d = true := by
  induction j using Json.induct generalizing d with
  | null | bool | int | string => rfl
  | array items ih =>
    cases d with
    | zero => cases within
    | succ d =>
      rw [toNode_array, Node.isSound_array]
      rintro n mem
      obtain ⟨j, item, rfl⟩ := List.mem_map.mp mem
      exact ih j item (depth_array_le.mp within j item)
  | object members ih =>
    cases d with
    | zero => cases within
    | succ d =>
      rw [toNode_object, Node.isSound_object]
      rintro n mem
      obtain ⟨m, member, rfl⟩ := List.mem_map.mp mem
      exact ⟨rfl, ih m member (depth_object_le.mp within m member)⟩

/-! ### Objects in order -/

theorem mem_insertMember {name : String} {m : String × Json}
    (mem : m ∈ insertMember name j members) : m = (name, j) ∨ m ∈ members := by
  induction members with
  | nil => simpa [insertMember] using mem
  | cons other rest ih =>
    unfold insertMember at mem
    split at mem
    · rcases List.mem_cons.mp mem with same | later
      · exact .inl same
      · exact .inr (List.mem_cons_of_mem _ later)
    split at mem
    · exact List.mem_cons.mp mem
    · rcases List.mem_cons.mp mem with same | later
      · exact .inr (same ▸ List.mem_cons_self)
      · exact (ih later).imp_right (List.mem_cons_of_mem _)

/-- A member keeps the order. -/
theorem pairwise_insertMember {name : String}
    (sorted : (members.map (·.1)).Pairwise (· < ·)) :
    ((insertMember name j members).map (·.1)).Pairwise (· < ·) := by
  induction members with
  | nil => simp [insertMember]
  | cons other rest ih =>
    obtain ⟨before, sorted⟩ := List.pairwise_cons.mp sorted
    unfold insertMember
    split
    · next same =>
      exact List.pairwise_cons.mpr ⟨same ▸ before, sorted⟩
    split
    · next less =>
      refine List.pairwise_cons.mpr ⟨fun k mem => ?_, List.pairwise_cons.mpr ⟨before, sorted⟩⟩
      rcases List.mem_cons.mp mem with rfl | later
      · exact less
      · exact lt_trans less (before k later)
    · next different notLess =>
      have greater : other.1 < name := lt_of_le_of_ne (not_lt.mp notLess) (Ne.symm different)
      refine List.pairwise_cons.mpr ⟨fun k mem => ?_, ih sorted⟩
      obtain ⟨m, member, rfl⟩ := List.mem_map.mp mem
      rcases mem_insertMember member with rfl | old
      · exact greater
      · exact before m.1 (List.mem_map_of_mem old)

/-- A member whose name comes after all the others stands last. -/
theorem insertMember_of_last {name : String} (last : ∀ m ∈ members, m.1 < name) :
    insertMember name j members = members ++ [(name, j)] := by
  induction members with
  | nil => rfl
  | cons other rest ih =>
    have less : other.1 < name := last other List.mem_cons_self
    rw [insertMember, if_neg less.ne', if_neg less.asymm,
      ih fun m mem => last m (List.mem_cons_of_mem _ mem)]
    rfl

/-- Members are put in order, and none is made up. -/
theorem sortMembers_sound (members : List (String × Json)) :
    ((sortMembers members).map (·.1)).Pairwise (· < ·) ∧
      ∀ m ∈ sortMembers members, m ∈ members := by
  -- the members that have been sorted so far are in order, and the rest is still to come
  have step (acc members : List (String × Json)) (sorted : (acc.map (·.1)).Pairwise (· < ·)) :
      ((members.foldl (fun acc m => insertMember m.1 m.2 acc) acc).map (·.1)).Pairwise (· < ·) ∧
        ∀ m ∈ members.foldl (fun acc m => insertMember m.1 m.2 acc) acc,
          m ∈ acc ∨ m ∈ members := by
    induction members generalizing acc with
    | nil => exact ⟨sorted, fun m mem => .inl mem⟩
    | cons n rest ih =>
      obtain ⟨sorted, known⟩ := ih (insertMember n.1 n.2 acc) (pairwise_insertMember sorted)
      refine ⟨sorted, fun m mem => ?_⟩
      rcases known m mem with inserted | later
      · rcases mem_insertMember inserted with rfl | old
        · exact .inr List.mem_cons_self
        · exact .inl old
      · exact .inr (List.mem_cons_of_mem _ later)
  obtain ⟨sorted, known⟩ := step [] members List.Pairwise.nil
  exact ⟨sorted, fun m mem => (known m mem).resolve_left List.not_mem_nil⟩

/-- Members in order stay as they are. -/
theorem sortMembers_of_sorted (sorted : (members.map (·.1)).Pairwise (· < ·)) :
    sortMembers members = members := by
  have step (acc members : List (String × Json))
      (sorted : ((acc ++ members).map (·.1)).Pairwise (· < ·)) :
      members.foldl (fun acc m => insertMember m.1 m.2 acc) acc = acc ++ members := by
    induction members generalizing acc with
    | nil => simp
    | cons n rest ih =>
      have last : ∀ m ∈ acc, m.1 < n.1 := by
        rw [List.map_append, List.pairwise_append] at sorted
        exact fun m mem => sorted.2.2 m.1 (List.mem_map_of_mem mem) n.1 List.mem_cons_self
      rw [List.foldl_cons, insertMember_of_last last, ih _ (by simpa using sorted)]
      simp
  exact step [] members sorted

/-! ### Reading data from its tree -/

theorem values_toNode (held : ∀ j ∈ items, held? j.toNode = some j) :
    held?.values (items.map toNode) = some items := by
  induction items with
  | nil => rfl
  | cons j rest ih =>
    have later := ih fun k mem => held k (List.mem_cons_of_mem _ mem)
    rw [List.map_cons, held?.values, held j List.mem_cons_self, later]

theorem namedValues_cons {name : Option String} {n : Node} {rest : List (Option String × Node)} :
    held?.namedValues ((name, n) :: rest) =
      if rest.any fun m => m.1 = name then held?.namedValues rest
      else
        match name, held? n, held?.namedValues rest with
        | some name, some j, some ms => some ((name, j) :: ms)
        | _, _, _ => none :=
  held?.namedValues.eq_def _

theorem namedValues_toNode (distinct : (members.map (·.1)).Nodup)
    (held : ∀ m ∈ members, held? m.2.toNode = some m.2) :
    held?.namedValues (members.map fun m => (some m.1, m.2.toNode)) = some members := by
  induction members with
  | nil => rfl
  | cons m rest ih =>
    obtain ⟨new, distinct⟩ := List.nodup_cons.mp distinct
    have later := ih distinct fun k mem => held k (List.mem_cons_of_mem _ mem)
    have single : (rest.map fun m => (some m.1, m.2.toNode)).any (fun k => k.1 = some m.1) =
        false := by
      rw [List.any_map, List.any_eq_false]
      intro k mem same
      exact new (List.mem_map.mpr ⟨k, mem, by simpa using same⟩)
    rw [List.map_cons, namedValues_cons, single, if_neg Bool.false_ne_true,
      held m List.mem_cons_self, later]

/-- Data in order is held by its tree. -/
theorem held?_toNode (normal : j.Normal) : held? j.toNode = some j := by
  induction j using Json.induct with
  | null | bool | int | string => rfl
  | array items ih =>
    rw [toNode_array, held?, values_toNode fun j mem => ih j mem (normal_array.mp normal j mem)]
    rfl
  | object members ih =>
    obtain ⟨sorted, normal⟩ := normal_object.mp normal
    have distinct : (members.map (·.1)).Nodup := sorted.imp fun less => less.ne
    rw [toNode_object, held?, namedValues_toNode distinct fun m mem => ih m mem (normal m mem),
      Option.map_some, sortMembers_of_sorted sorted]

/-- Data in order is read back from its tree. -/
theorem ofNode_toNode (normal : j.Normal) (within : j.depth ≤ d) : ofNode d j.toNode = some j := by
  rw [ofNode, if_pos (isSound_toNode j within), held?_toNode normal]

end Json

/-- Every integer of the tree fits 64 bits. -/
inductive Node.Fits : Node → Prop
  | null : Fits .null
  | bool {b : Bool} : Fits (.bool b)
  | number {n : Numeral} (fits : ∀ i, n = .whole i → Numeral.InRange i) : Fits (.number n)
  | string {value : Option String} : Fits (.string value)
  | array {items : List Node} (fit : ∀ n ∈ items, Fits n) : Fits (.array items)
  | object {members : List (Option String × Node)} (fit : ∀ m ∈ members, Fits m.2) :
    Fits (.object members)

/-- Every integer of the data fits 64 bits. -/
abbrev Json.Fits (j : Json) : Prop := j.toNode.Fits

namespace Json

variable {j : Json} {n : Node} {d : Nat}

theorem fits_array {items : List Json} : (array items).Fits ↔ ∀ j ∈ items, j.Fits := by
  rw [Fits, toNode_array]
  refine ⟨fun fits j mem => ?_, fun fit => .array fun n mem => ?_⟩
  · cases fits with
    | array fit => exact fit _ (List.mem_map_of_mem mem)
  · obtain ⟨j, item, rfl⟩ := List.mem_map.mp mem
    exact fit j item

theorem fits_object {members : List (String × Json)} :
    (object members).Fits ↔ ∀ m ∈ members, m.2.Fits := by
  rw [Fits, toNode_object]
  refine ⟨fun fits m mem => ?_, fun fit => .object fun n mem => ?_⟩
  · cases fits with
    | object fit => exact fit _ (List.mem_map_of_mem mem)
  · obtain ⟨m, member, rfl⟩ := List.mem_map.mp mem
    exact fit m member

theorem fits_of_normal (normal : j.Normal) : j.Fits := by
  induction j using Json.induct with
  | null => exact .null
  | bool => exact .bool
  | int n => exact .number fun i same => Numeral.whole.inj same ▸ normal
  | string => exact .string
  | array items ih =>
    exact fits_array.mpr fun j mem => ih j mem (normal_array.mp normal j mem)
  | object members ih =>
    exact fits_object.mpr fun m mem => ih m mem ((normal_object.mp normal).2 m mem)

theorem held_of_mem_values {ns : List Node} {items : List Json}
    (read : held?.values ns = some items) (mem : j ∈ items) : ∃ n ∈ ns, held? n = some j := by
  induction ns generalizing items with
  | nil =>
    cases read
    cases mem
  | cons n rest ih =>
    rw [held?.values] at read
    split at read
    · next k ks held later =>
      cases read
      rcases List.mem_cons.mp mem with rfl | later'
      · exact ⟨n, List.mem_cons_self, held⟩
      · obtain ⟨n', mem, held⟩ := ih later later'
        exact ⟨n', List.mem_cons_of_mem _ mem, held⟩
    · cases read

theorem held_of_mem_namedValues {ns : List (Option String × Node)}
    {members : List (String × Json)} {m : String × Json}
    (read : held?.namedValues ns = some members) (mem : m ∈ members) :
    ∃ n ∈ ns, held? n.2 = some m.2 := by
  induction ns generalizing members with
  | nil =>
    cases read
    cases mem
  | cons n rest ih =>
    have later {members : List (String × Json)} (read : held?.namedValues rest = some members)
        (mem : m ∈ members) : ∃ n' ∈ n :: rest, held? n'.2 = some m.2 := by
      obtain ⟨n', mem, held⟩ := ih read mem
      exact ⟨n', List.mem_cons_of_mem _ mem, held⟩
    obtain ⟨name, n⟩ := n
    rw [namedValues_cons] at read
    split at read
    · exact later read mem
    split at read
    · next name j js held values _ =>
      cases read
      rcases List.mem_cons.mp mem with rfl | member
      · exact ⟨_, List.mem_cons_self, held⟩
      · exact later values member
    · cases read

/-- Data that is read is in order. -/
theorem normal_of_held (fits : n.Fits) (held : held? n = some j) : j.Normal := by
  induction n using Node.induct generalizing j with
  | null | bool =>
    cases held
    trivial
  | number n =>
    cases n with
    | whole i =>
      cases held
      cases fits with
      | number fits => exact fits i rfl
    | inexact | excessive => cases held
  | string value =>
    obtain ⟨s, -, rfl⟩ := Option.map_eq_some_iff.mp held
    trivial
  | array items ih =>
    cases fits with
    | array fit =>
      obtain ⟨js, values, rfl⟩ := Option.map_eq_some_iff.mp held
      refine normal_array.mpr fun j mem => ?_
      obtain ⟨n, item, held⟩ := held_of_mem_values values mem
      exact ih n item (fit n item) held
  | object members ih =>
    cases fits with
    | object fit =>
      obtain ⟨ms, values, rfl⟩ := Option.map_eq_some_iff.mp held
      obtain ⟨sorted, known⟩ := sortMembers_sound ms
      refine normal_object.mpr ⟨sorted, fun m mem => ?_⟩
      obtain ⟨n, member, held⟩ := held_of_mem_namedValues values (known m mem)
      exact ih n member (fit n member) held

/-- Data that is read nests no deeper than its tree. -/
theorem depth_of_sound (sound : n.isSound d = true) (held : held? n = some j) : j.depth ≤ d := by
  induction n using Node.induct generalizing j d with
  | null | bool =>
    cases held
    exact Nat.zero_le d
  | number n =>
    cases n with
    | whole i =>
      cases held
      exact Nat.zero_le d
    | inexact | excessive => cases held
  | string value =>
    obtain ⟨s, -, rfl⟩ := Option.map_eq_some_iff.mp held
    exact Nat.zero_le d
  | array items ih =>
    cases d with
    | zero => cases sound
    | succ d =>
      obtain ⟨js, values, rfl⟩ := Option.map_eq_some_iff.mp held
      refine depth_array_le.mpr fun j mem => ?_
      obtain ⟨n, item, held⟩ := held_of_mem_values values mem
      exact ih n item (Node.isSound_array.mp sound n item) held
  | object members ih =>
    cases d with
    | zero => cases sound
    | succ d =>
      obtain ⟨ms, values, rfl⟩ := Option.map_eq_some_iff.mp held
      refine depth_object_le.mpr fun m mem => ?_
      obtain ⟨n, member, held⟩ := held_of_mem_namedValues values ((sortMembers_sound ms).2 m mem)
      exact ih n member (Node.isSound_object.mp sound n member).2 held

/-- Data that is read from a tree within a limit is in order and within the limit. -/
theorem sound_of_ofNode (fits : n.Fits) (read : ofNode d n = some j) :
    j.Normal ∧ j.depth ≤ d := by
  unfold ofNode at read
  split at read
  · next sound => exact ⟨normal_of_held fits read, depth_of_sound sound read⟩
  · cases read

end Json

end CallExchange
