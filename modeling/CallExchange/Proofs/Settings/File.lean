import CallExchange.Proofs.Json.Roundtrip
import CallExchange.Proofs.Wire.Values
import CallExchange.Settings.File

/-!
# What a settings file says

A file says all settings if it holds an object with their members. The members stand in any order,
members of other names may stand between them, and the text may be any that denotes the object. A
missing seed is null, or its member is left out, or that of all routing.

## Main definitions

* `Node.Holds` — an object with given members, as far as it has members of certain names
* `Settings.SaidBy`, `Settings.WrittenIn` — the trees and the texts of settings

## Main results

* `fields_of_holds` — neither the order of members nor other members matter
* `ofNode_of_saidBy`, `ofText_of_writtenIn` — the settings are read
* `exists_writtenIn` — all settings have a text
-/

namespace CallExchange

/-! ### Objects -/

namespace Node

variable {n : Node} {name : String} {names : List String} {fs known : Fields}

/-- The members of certain names are the given ones, in any order. There may be others. -/
def Holds (n : Node) (names : List String) (known : Fields) : Prop :=
  ∃ members : Fields, n = .object (members.map fun m => (some m.1, m.2)) ∧
    (members.filter fun m => names.contains m.1).Perm known

/-- Under names that differ, what is found is what is listed. -/
theorem lookup_eq_some_iff_mem (distinct : (fs.map (·.1)).Nodup) :
    fs.lookup name = some n ↔ (name, n) ∈ fs := by
  induction fs with
  | nil => simp
  | cons m fs ih =>
    obtain ⟨other, k⟩ := m
    obtain ⟨fresh, distinct⟩ := List.nodup_cons.mp distinct
    by_cases same : name = other
    · subst same
      have absent : (name, n) ∉ fs := fun mem => fresh (List.mem_map.mpr ⟨_, mem, rfl⟩)
      simp [absent, eq_comm]
    · simp [List.lookup_cons, beq_false_of_ne same, same, ih distinct]

theorem lookup_of_perm (perm : fs.Perm known) (distinct : (known.map (·.1)).Nodup) :
    fs.lookup name = known.lookup name := by
  have distinct' : (fs.map (·.1)).Nodup := (perm.map _).nodup_iff.mpr distinct
  refine Option.ext fun n => ?_
  rw [lookup_eq_some_iff_mem distinct', lookup_eq_some_iff_mem distinct, perm.mem_iff]

/-- A record finds the members that an object holds, whatever their order and whatever else there
is. -/
theorem fields_of_holds (holds : n.Holds names known) (distinct : (known.map (·.1)).Nodup) :
    ∃ fs, n.fields names = some fs ∧ ∀ name, fs.lookup name = known.lookup name := by
  obtain ⟨members, rfl, perm⟩ := holds
  refine ⟨_, ?_, fun name => lookup_of_perm perm distinct⟩
  simp only [fields, wholeNames_map]
  exact if_pos ((perm.map _).nodup_iff.mpr distinct)

theorem toWord_whole (w : UInt64) : toWord (.number (.whole w.toNat)) = some w := by
  have fits : 0 ≤ (w.toNat : Int) ∧ (w.toNat : Int).toNat < UInt64.size :=
    ⟨Int.natCast_nonneg _, w.toNat_lt_size⟩
  rw [toWord, toInt, Option.bind_some, if_pos fits, Int.toNat_natCast, UInt64.ofNat_toNat]

theorem holds_toNode {members : List (String × Json)}
    (perm : ((named members).filter fun m => names.contains m.1).Perm known) :
    (Json.object members).toNode.Holds names known :=
  ⟨named members, by simp [named, Json.toNode_object], perm⟩

end Node

/-! ### Settings -/

namespace Settings

open Node

variable {s : Settings} {n : Node} {text : String}

/-- What the part about routing says of a seed: its number, null, or nothing. -/
inductive SeedSaidBy : Option UInt64 → Fields → Prop
  | given (seed : UInt64) : SeedSaidBy (some seed) [("rng_seed", .number (.whole seed.toNat))]
  | null : SeedSaidBy none [("rng_seed", .null)]
  | missing : SeedSaidBy none []

/-- What a file says of routing: the part with the seed, or nothing. -/
inductive RoutingSaidBy : Option UInt64 → Fields → Prop
  | given {seed : Option UInt64} {part : Fields} {routing : Node} (said : SeedSaidBy seed part)
    (holds : routing.Holds ["rng_seed"] part) : RoutingSaidBy seed [("routing", routing)]
  | missing : RoutingSaidBy none []

/-- A tree says the settings: the level is a text, the capacity is a number in the part about the
audit trail, and the seed is one in the part about routing. -/
def SaidBy (s : Settings) (n : Node) : Prop :=
  ∃ audit routing,
    audit.Holds ["queue_capacity"] [("queue_capacity", .number (.whole s.queueCapacity.toNat))] ∧
    RoutingSaidBy s.rngSeed routing ∧
    n.Holds ["log_level", "audit", "routing"]
      (("log_level", .string (some s.logLevel)) :: ("audit", audit) :: routing)

/-- A text says the settings: it denotes a tree that does. -/
def WrittenIn (s : Settings) (text : String) : Prop := ∃ n, n.DenotedBy text ∧ s.SaidBy n

theorem auditPart_of_holds {q : UInt64}
    (holds : n.Holds ["queue_capacity"] [("queue_capacity", .number (.whole q.toNat))]) :
    auditPart n = some q := by
  obtain ⟨fs, read, found⟩ := fields_of_holds holds (by simp)
  simp only [auditPart, read, Option.bind_eq_bind, Option.bind_some, defaulted, found,
    List.lookup_cons_self]
  exact toWord_whole q

theorem routingPart_of_holds {seed : Option UInt64} {part : Fields} (said : SeedSaidBy seed part)
    (holds : n.Holds ["rng_seed"] part) : routingPart n = some seed := by
  have distinct : (part.map (·.1)).Nodup := by cases said <;> simp
  obtain ⟨fs, read, found⟩ := fields_of_holds holds distinct
  simp only [routingPart, read, Option.bind_eq_bind, Option.bind_some, Node.optional, found]
  cases said with
  | given seed => exact congrArg (Option.map some) (toWord_whole seed)
  | null | missing => rfl

theorem routing_of_saidBy {seed : Option UInt64} {fs routing : Fields}
    (said : RoutingSaidBy seed routing) (found : fs.lookup "routing" = routing.lookup "routing") :
    defaulted routingPart Settings.default.rngSeed "routing" fs = some seed := by
  rw [defaulted, found]
  cases said with
  | given said holds => exact routingPart_of_holds said holds
  | missing => rfl

/-- The settings of a tree are those that it says. -/
theorem ofNode_of_saidBy (said : s.SaidBy n) : ofNode n = some s := by
  obtain ⟨level, q, seed⟩ := s
  obtain ⟨audit, routing, queue, routed, holds⟩ := said
  have distinct : ((("log_level", .string (some level)) :: ("audit", audit) ::
      routing : Fields).map (·.1)).Nodup := by
    cases routed <;> simp
  obtain ⟨fs, read, found⟩ := fields_of_holds holds distinct
  have named : defaulted toText Settings.default.logLevel "log_level" fs = some level := by
    simp [defaulted, found, toText]
  have room : defaulted auditPart Settings.default.queueCapacity "audit" fs = some q := by
    simp [defaulted, found, List.lookup_cons, auditPart_of_holds queue]
  have source : defaulted routingPart Settings.default.rngSeed "routing" fs = some seed :=
    routing_of_saidBy routed (found "routing")
  simp [ofNode, read, named, room, source]

/-- The settings of a text are those that it says. -/
theorem ofText_of_writtenIn (written : s.WrittenIn text) : ofText text = .ok s := by
  obtain ⟨n, denoted, said⟩ := written
  rw [ofText, ofText_eq_some_iff.mpr denoted, Option.bind_some, ofNode_of_saidBy said]

/-- A file of a text that says the settings holds them, if they are valid. -/
theorem load_of_writtenIn {path : String} (written : s.WrittenIn text) :
    load path (some text.toUTF8) = s.validated := by
  have decoded : String.fromUTF8? text.toUTF8 = some text := dif_pos text.isValidUTF8
  simp only [load, decoded, ofText_of_writtenIn written]

/-- One way to write settings. -/
def toJson (s : Settings) : Json :=
  .object
    [("log_level", .string s.logLevel),
      ("audit", .object [("queue_capacity", .int s.queueCapacity.toNat)]),
      ("routing", .object [("rng_seed", Json.orNull (fun w => .int w.toNat) s.rngSeed)])]

theorem fits_toJson (s : Settings) : s.toJson.Fits := by
  simp [toJson]

/-- All settings have a text. -/
theorem exists_writtenIn (s : Settings) : ∃ text, s.WrittenIn text := by
  have seed : SeedSaidBy s.rngSeed
      (named [("rng_seed", Json.orNull (fun w => .int w.toNat) s.rngSeed)]) := by
    cases s.rngSeed with
    | none => exact .null
    | some seed => exact .given seed
  exact ⟨s.toJson.toText, s.toJson.toNode, ofText_eq_some_iff.mp (ofText_toText s.fits_toJson),
    _, _, holds_toNode (.refl _), .given seed (holds_toNode (.refl _)), holds_toNode (.refl _)⟩

end Settings

end CallExchange
