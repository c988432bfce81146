import CallExchange.Proofs.Json.Roundtrip
import CallExchange.Proofs.Time.Rfc3339
import CallExchange.Wire.Call
import CallExchange.Wire.Wallet

/-!
# Members of records are read back

A record is written as an object of members that it knows, in their order. So each member is found
under its name and read by itself: one that is required, one that is null if it is absent, and one
that is left out.

## Main definitions

* `Node.named` — the members of an object with their trees
* `Json.Storable` — free-form data that a member of a record can hold

## Main results

* `fields_object` — a record finds its members in the object that was written of it
* `required_named`, `optional_named` — each member is read by itself
* `optionalOf_map`, `optionalOf_orNull` — a value that may be absent is read back
* `Uuid.read?_write`, `toInt64_ofAmount`, `toList_ofList` — so are the others
* `storable_of_optional` — free-form data that has been read can be held
-/

namespace CallExchange

namespace Uuid

/-- Groups between hyphens are put together. -/
theorem ofGroups?_groups {a b c d e : List Char} (ha : a.length = 8) (hb : b.length = 4)
    (hc : c.length = 4) (hd : d.length = 4) (he : e.length = 12) :
    ofGroups? (a ++ '-' :: (b ++ '-' :: (c ++ '-' :: (d ++ '-' :: e)))) =
      ofDigits? (a ++ b ++ c ++ d ++ e) := by
  simp [ofGroups?, List.drop_append, List.drop_of_length_le, ha, hb, hc, hd, he]

theorem ofGroups?_chars (u : Uuid) : ofGroups? u.chars = ofDigits? (u.digits.map digitChar) := by
  have length : (u.digits.map digitChar).length = 32 := by rw [List.length_map, u.length_digits]
  unfold chars
  generalize u.digits.map digitChar = cs at length
  have joined : cs.take 8 ++ (cs.drop 8).take 4 ++ (cs.drop 12).take 4 ++ (cs.drop 16).take 4 ++
      cs.drop 20 = cs := by
    rw [← List.take_add, ← List.take_add, ← List.take_add, List.take_append_drop]
  rw [ofGroups?_groups (by simp [length]) (by simp [length]) (by simp [length]) (by simp [length])
    (by simp [length]), joined]

/-- An identifier is read back from its text. -/
theorem read?_write (u : Uuid) : read? u.write = some u := by
  have long : u.chars.length = 36 := by simp [chars, u.length_digits]
  have digits : ofDigits? (u.digits.map digitChar) = some u := by
    rw [ofDigits?, digits?_map_digitChar]
    exact dif_pos u.length_digits
  simp only [read?, write, String.toList_ofList, long, ofGroups?_chars, digits]
  rfl

end Uuid

namespace Node

variable {α : Type} {name : String} {names : List String} {members more : List (String × Json)}
  {read : Node → Option α} {write : α → Json}

/-- The members of an object, each with its tree. -/
def named (members : List (String × Json)) : Fields := members.map fun m => (m.1, m.2.toNode)

theorem wholeNames_named (members : List (String × Json)) :
    wholeNames (members.map fun m => (some m.1, m.2.toNode)) = some (named members) := by
  rw [← wholeNames_map (named members), named, List.map_map]
  rfl

/-- The members have some of the names, in their order. -/
def Known (names : List String) (members : List (String × Json)) : Prop :=
  (members.map (·.1)).Sublist names

theorem known_list (members : List (String × Json)) : Known (members.map (·.1)) members :=
  .refl _

theorem known_unlessAbsent {o : Option α} : Known [name] (Json.unlessAbsent name write o) := by
  cases o with
  | none => exact List.nil_sublist _
  | some a => exact .refl _

theorem Known.append {others : List String} (known : Known names members)
    (known' : Known others more) : Known (names ++ others) (members ++ more) := by
  rw [Known, List.map_append]
  exact List.Sublist.append known known'

/-- A record finds all members of an object whose names it knows in their order. -/
theorem fields_object {written : List String} (known : Known written members)
    (same : written = names) (distinct : names.Nodup) :
    fields names (Json.object members).toNode = some (named members) := by
  subst same
  have names_eq : (named members).map (·.1) = members.map (·.1) := by simp [named]
  have all : (named members).filter (fun m => written.contains m.1) = named members := by
    refine List.filter_eq_self.mpr fun m mem => List.contains_iff_mem.mpr (known.subset ?_)
    exact names_eq ▸ List.mem_map_of_mem mem
  rw [Json.toNode_object, fields]
  simp only [wholeNames_named, all, names_eq]
  exact if_pos (distinct.sublist known)

theorem lookup_named : (named members).lookup name = (members.lookup name).map Json.toNode := by
  induction members with
  | nil => rfl
  | cons m rest ih =>
    rw [named, List.map_cons, List.lookup_cons, List.lookup_cons]
    cases name == m.1
    · exact ih
    · rfl

/-- A member that is required is read from what stands under its name. -/
theorem required_named :
    required read name (named members) = (members.lookup name).bind fun j => read j.toNode := by
  rw [required, lookup_named]
  cases members.lookup name <;> rfl

/-- A member with a default is read from what stands under its name, if anything does. -/
theorem defaulted_named {default : α} :
    defaulted read default name (named members) =
      (members.lookup name).elim (some default) fun j => read j.toNode := by
  rw [defaulted, lookup_named]
  cases members.lookup name <;> rfl

/-- What a member says that may be absent or null. -/
def optionalOf (read : Node → Option α) : Option Json → Option (Option α)
  | none | some .null => some none
  | some j => (read j.toNode).map some

/-- A member that may be absent is read from what stands under its name. -/
theorem optional_named :
    optional read name (named members) = optionalOf read (members.lookup name) := by
  rw [optional, lookup_named]
  cases members.lookup name with
  | none => rfl
  | some j =>
    cases j with
    | null | bool | int | string => rfl
    | array | object => simp [optionalOf]

/-- A member that is left out when it is absent is read back. -/
theorem optionalOf_map {o : Option α}
    (reads : ∀ a ∈ o, write a ≠ .null ∧ read (write a).toNode = some a) :
    optionalOf read (o.map write) = some o := by
  cases o with
  | none => rfl
  | some a =>
    obtain ⟨something, reads⟩ := reads a rfl
    rw [Option.map_some]
    unfold optionalOf
    split
    · next absent => cases absent
    · next null => exact absurd (Option.some.inj null) something
    · next same => rw [← Option.some.inj same, reads, Option.map_some]

/-- A member that is null when it is absent is read back. -/
theorem optionalOf_orNull {o : Option α}
    (reads : ∀ a ∈ o, write a ≠ .null ∧ read (write a).toNode = some a) :
    optionalOf read (some (Json.orNull write o)) = some o := by
  cases o with
  | none => rfl
  | some a => exact optionalOf_map reads

end Node

/-- A member that may be left out is the only one of its name. -/
theorem Json.lookup_unlessAbsent {α : Type} {name other : String} {write : α → Json}
    {o : Option α} :
    (unlessAbsent other write o).lookup name = if name = other then o.map write else none := by
  cases o with
  | none => simp [unlessAbsent]
  | some a =>
    rw [unlessAbsent, List.lookup_cons]
    by_cases same : name = other
    · simp [same]
    · simp [same, beq_false_of_ne same]

/-! ### Values -/

/-- Free-form data that a member of a record can hold: it is in order, nests within the limit, and is
not null, which would be read as absent. -/
structure Json.Storable (j : Json) : Prop where
  normal : j.Normal
  within : j.depth ≤ Node.maxDepth - 1
  something : j ≠ .null

/-- Free-form data that a member can hold fits 64 bits. -/
theorem Json.fit_of_storable {o : Option Json} (storable : ∀ j ∈ o, j.Storable) :
    ∀ j ∈ o, j.Fits := fun j mem => fits_of_normal (storable j mem).normal

namespace Node

section

variable {s : String} {b : Bool} {t : Instant} {u : Uuid} {a : Minor} {w : Int32}

@[simp] theorem toText_string : toText (Json.string s).toNode = some s := rfl

@[simp] theorem toBool_bool : toBool (Json.bool b).toNode = some b := rfl

@[simp] theorem toInstant_ofInstant : toInstant (Json.ofInstant t).toNode = some t := by
  rw [Json.ofInstant, toInstant, toText_string, Option.bind_some, Instant.read?_write]

@[simp] theorem toUuid_ofUuid : toUuid (Json.ofUuid u).toNode = some u := by
  rw [Json.ofUuid, toUuid, toText_string, Option.bind_some, Uuid.read?_write]

@[simp] theorem toInt64_ofAmount : toInt64 (Json.ofAmount a).toNode = some a := by
  have within : Int64.minValue.toInt ≤ a.toInt ∧ a.toInt ≤ Int64.maxValue.toInt :=
    ⟨a.minValue_le_toInt, a.toInt_le⟩
  have held : (Json.ofAmount a).toNode.toInt = some a.toInt := rfl
  rw [toInt64, held, Option.bind_some, if_pos within, Int64.ofInt_toInt]

@[simp] theorem toInt32_int : toInt32 (Json.int w.toInt).toNode = some w := by
  have within : Int32.minValue.toInt ≤ w.toInt ∧ w.toInt ≤ Int32.maxValue.toInt :=
    ⟨w.minValue_le_toInt, w.toInt_le⟩
  have held : (Json.int w.toInt).toNode.toInt = some w.toInt := rfl
  rw [toInt32, held, Option.bind_some, if_pos within, Int32.ofInt_toInt]

end

theorem toList_ofList {α : Type} {read : Node → Option α} {write : α → Json}
    (reads : ∀ a, read (write a).toNode = some a) (as : List α) :
    toList read (Json.ofList write as).toNode = some as := by
  have all : toList.readAll read ((as.map write).map Json.toNode) = some as := by
    induction as with
    | nil => rfl
    | cons a rest ih => rw [List.map_cons, List.map_cons, toList.readAll, reads, ih]
  rw [Json.ofList, Json.toNode_array]
  exact all

/-! ### Optional values -/

@[simp] theorem optionalOf_string (o : Option String) :
    optionalOf toText (o.map .string) = some o :=
  optionalOf_map fun _ _ => ⟨nofun, toText_string⟩

@[simp] theorem optionalOf_ofAmount (o : Option Minor) :
    optionalOf toInt64 (o.map .ofAmount) = some o :=
  optionalOf_map fun _ _ => ⟨nofun, toInt64_ofAmount⟩

@[simp] theorem optionalOf_ofUuid (o : Option Uuid) :
    optionalOf toUuid (o.map .ofUuid) = some o :=
  optionalOf_map fun _ _ => ⟨nofun, toUuid_ofUuid⟩

@[simp] theorem optionalOf_orNull_string (o : Option String) :
    optionalOf toText (some (Json.orNull .string o)) = some o :=
  optionalOf_orNull fun _ _ => ⟨nofun, toText_string⟩

@[simp] theorem optionalOf_orNull_ofInstant (o : Option Instant) :
    optionalOf toInstant (some (Json.orNull .ofInstant o)) = some o :=
  optionalOf_orNull fun _ _ => ⟨nofun, toInstant_ofInstant⟩

/-- Free-form data is read back if the member can hold it. -/
theorem optionalOf_data {o : Option Json} (storable : ∀ j ∈ o, j.Storable) :
    optionalOf toData o = some o := by
  have read : optionalOf toData (o.map fun j => j) = some o :=
    optionalOf_map fun j mem => ⟨(storable j mem).something,
      Json.ofNode_toNode (storable j mem).normal (storable j mem).within⟩
  rwa [Option.map_id_fun'] at read

end Node

/-! ### Choices -/

@[simp] theorem Role.ofNode?_name (r : Role) : ofNode? (Json.string r.name).toNode = some r := by
  cases r <;> decide

@[simp] theorem CallAction.ofNode?_name (a : CallAction) :
    ofNode? (Json.string a.name).toNode = some a := by
  cases a <;> decide

@[simp] theorem WalletStatus.ofNode?_name (w : WalletStatus) :
    ofNode? (Json.string w.name).toNode = some w := by
  cases w <;> decide

@[simp] theorem EntryType.ofNode?_name (t : EntryType) :
    ofNode? (Json.string t.name).toNode = some t := by
  cases t <;> decide

@[simp] theorem AdminActionType.ofNode?_name (t : AdminActionType) :
    ofNode? (Json.string t.name).toNode = some t := by
  cases t <;> decide

/-! ### Data that fits -/

namespace Json

variable {name : String}

@[simp] theorem fits_null : Json.null.Fits := .null

@[simp] theorem fits_bool {b : Bool} : (Json.bool b).Fits := .bool

@[simp] theorem fits_string {s : String} : (Json.string s).Fits := .string

@[simp] theorem fits_ofInstant {t : Instant} : (ofInstant t).Fits := .string

@[simp] theorem fits_ofUuid {u : Uuid} : (ofUuid u).Fits := .string

@[simp] theorem fits_ofAmount {a : Minor} : (ofAmount a).Fits := by
  refine .number fun i same => ?_
  cases same
  have upper := a.toInt_lt
  refine ⟨a.minValue_le_toInt, ?_⟩
  rw [UInt64.size]
  omega

@[simp] theorem fits_int32 {w : Int32} : (int w.toInt).Fits := by
  refine .number fun i same => ?_
  cases same
  have lower := w.le_toInt
  have upper := w.toInt_lt
  rw [Numeral.InRange, Int64.toInt_minValue, UInt64.size]
  omega

@[simp] theorem fits_word {w : UInt64} : (int w.toNat).Fits := by
  refine .number fun i same => ?_
  cases same
  have upper := w.toNat_lt_size
  rw [UInt64.size] at upper
  rw [Numeral.InRange, Int64.toInt_minValue, UInt64.size]
  omega

@[simp] theorem fits_orNull {α : Type} {write : α → Json} {o : Option α} :
    (orNull write o).Fits ↔ ∀ a ∈ o, (write a).Fits := by
  cases o <;> simp [orNull]

/-! An object fits if each of its members does. -/

variable {m : String × Json} {members more : List (String × Json)}

@[simp] theorem fits_object_nil : (object []).Fits := fits_object.mpr nofun

@[simp] theorem fits_object_cons :
    (object (m :: members)).Fits ↔ m.2.Fits ∧ (object members).Fits := by
  rw [fits_object, fits_object, List.forall_mem_cons]

@[simp] theorem fits_object_append :
    (object (members ++ more)).Fits ↔ (object members).Fits ∧ (object more).Fits := by
  rw [fits_object, fits_object, fits_object, List.forall_mem_append]

@[simp] theorem fits_object_unlessAbsent {α : Type} {write : α → Json} {o : Option α} :
    (object (unlessAbsent name write o)).Fits ↔ ∀ a ∈ o, (write a).Fits := by
  cases o <;> simp [unlessAbsent]

end Json

/-! ### Free-form data that has been read -/

namespace Node

variable {n : Node} {names : List String} {name : String} {fs : Fields} {o : Option Json}

theorem fit_of_wholeNames {ms : List (Option String × Node)} (whole : wholeNames ms = some fs)
    (fit : ∀ m ∈ ms, m.2.Fits) : ∀ m ∈ fs, m.2.Fits := by
  induction ms generalizing fs with
  | nil =>
    cases whole
    exact nofun
  | cons m rest ih =>
    obtain ⟨first, later⟩ := List.forall_mem_cons.mp fit
    match m, whole with
    | (some name, n), whole =>
      obtain ⟨others, named, rfl⟩ := Option.map_eq_some_iff.mp whole
      exact List.forall_mem_cons.mpr ⟨first, ih named later⟩

/-- The members that a record finds in a tree hold no more than the tree. -/
theorem fit_of_fields (fits : n.Fits) (found : fields names n = some fs) :
    ∀ m ∈ fs, m.2.Fits := by
  cases fits with
  | null | bool | number | string => cases found
  | array fit =>
    rw [fields] at found
    split at found
    · cases found
      exact fun m mem => fit m.2 (List.of_mem_zip mem).2
    · cases found
  | object fit =>
    rw [fields] at found
    split at found
    · cases found
    · next all whole =>
      dsimp only at found
      split at found
      · cases found
        exact fun m mem => fit_of_wholeNames whole fit m (List.mem_of_mem_filter mem)
      · cases found

/-- Data that is read is null only if its tree is. -/
theorem ne_null_of_toData {j : Json} (data : toData n = some j) (something : n ≠ .null) :
    j ≠ .null := by
  rintro rfl
  rw [toData, Json.ofNode] at data
  split at data
  · cases n with
    | null => exact something rfl
    | bool => cases data
    | number n => cases n <;> cases data
    | string => simp [Json.held?] at data
    | array | object => simp [Json.held?] at data
  · cases data

/-- Free-form data that has been read can be held. -/
theorem storable_of_optional (fit : ∀ m ∈ fs, m.2.Fits)
    (read : optional toData name fs = some o) : ∀ j ∈ o, j.Storable := by
  rw [optional] at read
  split at read
  · cases read
    exact nofun
  · cases read
    exact nofun
  · next n something found =>
    obtain ⟨before, after, rfl, -⟩ := List.lookup_eq_some_iff.mp found
    have fits : n.Fits := fit (name, n) (List.mem_append_right _ List.mem_cons_self)
    obtain ⟨j, data, rfl⟩ := Option.map_eq_some_iff.mp read
    rintro _ mem
    obtain rfl := Option.mem_some_iff.mp mem
    obtain ⟨normal, within⟩ := Json.sound_of_ofNode fits data
    exact ⟨normal, within, ne_null_of_toData data something⟩

end Node

end CallExchange
