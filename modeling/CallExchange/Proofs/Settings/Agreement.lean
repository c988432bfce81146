import CallExchange.Proofs.Settings.File
import CallExchange.Proofs.Settings.Levels
import CallExchange.Settings.Environment

/-!
# A file and the environment agree

Settings can be said by a file and by the environment. Whichever says them, they are accepted or
refused alike, and whatever text the file has: the level is looked at before the queue, and both
keep the level as it was written.

## Main definitions

* `Settings.environment` — the variables that say the settings
* `Settings.HasLevel`, `Settings.Valid` — a level is written, and the queue has room

## Main results

* `validated_eq_ok_iff`, `validated_eq_error_iff` — which settings are valid, and what is wrong
* `load_eq_ofEnvironment` — the two ways agree, and what comes of them
-/

namespace CallExchange.Settings

open Text

variable {s t : Settings} {text : String} {e : SettingsError}

/-- The digits of a number as the value of a variable. -/
def digits (w : UInt64) : String := String.ofList (Decimal.ofNat w.toNat)

/-- The variables that say the settings: a seed that is missing is not set. -/
def environment (s : Settings) : Environment where
  logLevel := some s.logLevel
  auditQueue := some (digits s.queueCapacity)
  rngSeed := s.rngSeed.map digits

theorem digits_ne_empty (w : UInt64) : digits w ≠ "" := by
  intro same
  have empty := congrArg String.toList same
  rw [digits, String.toList_ofList] at empty
  exact Decimal.ofNat_ne_nil _ empty

theorem wordOr_digits {α : Type} {default : α} {ofWord : UInt64 → α} {bad : String → SettingsError}
    (w : UInt64) : wordOr default ofWord bad (some (digits w)) = .ok (ofWord w) := by
  have set : Environment.nonEmpty (some (digits w)) = some (digits w) := by
    simp [Environment.nonEmpty, digits_ne_empty]
  have read : Decimal.readWord? (digits w) = some w := Decimal.readWord?_ofNat w
  simp only [wordOr, set, read]

/-- An environment that says the settings names them, if they are valid. -/
theorem ofEnvironment_environment (named : s.logLevel ≠ "") :
    ofEnvironment s.environment = s.validated := by
  have level : Environment.nonEmpty (some s.logLevel) = some s.logLevel := by
    simp [Environment.nonEmpty, named]
  have seed : wordOr Settings.default.rngSeed some .badSeed (s.rngSeed.map digits) =
      .ok s.rngSeed := by
    cases s.rngSeed with
    | none => rfl
    | some seed => exact wordOr_digits seed
  simp only [ofEnvironment, environment, level, Option.getD_some, wordOr_digits, seed]
  rfl

/-- A level is written in the settings. -/
def HasLevel (s : Settings) : Prop := ∃ l : LogLevel, l.WrittenIn s.logLevel

/-- The queue has room and a level is written. -/
def Valid (s : Settings) : Prop := 0 < s.queueCapacity ∧ s.HasLevel

/-- The settings have a level, or their text is reported. -/
theorem level_cases (s : Settings) :
    (s.HasLevel ∧ ∃ l, s.level = .ok l) ∨
      ¬s.HasLevel ∧ s.level = .error (.badLevel s.logLevel) := by
  simp only [HasLevel, level, ← LogLevel.parse?_trim_eq_some_iff]
  cases LogLevel.parse? (trim s.logLevel) <;> simp

theorem validated_eq_ok_iff : s.validated = .ok t ↔ t = s ∧ s.Valid := by
  rcases level_cases s with ⟨leveled, l, level⟩ | ⟨unleveled, level⟩
  · simp only [validated, level, Valid, leveled, and_true]
    by_cases empty : s.queueCapacity = 0
    · simp [empty]
    · simp [empty, UInt64.pos_iff_ne_zero, eq_comm]
  · simp [validated, level, Valid, unleveled]

/-- A text without a level is reported, whatever the queue; else a queue without room is. -/
theorem validated_eq_error_iff :
    s.validated = .error e ↔
      (e = .badLevel s.logLevel ∧ ¬s.HasLevel) ∨
      (e = .emptyQueue ∧ s.HasLevel ∧ s.queueCapacity = 0) := by
  -- the level decides alone if there is none, and the queue if there is one
  rcases level_cases s with ⟨leveled, l, level⟩ | ⟨unleveled, level⟩
  · simp only [validated, level, leveled, true_and, not_true, and_false, false_or]
    by_cases empty : s.queueCapacity = 0
    · simp [empty, eq_comm]
    · simp [empty]
  · simp [validated, level, unleveled, eq_comm]

/-- A file and the environment that say the same settings agree, whatever text the file has. Both
return the settings exactly if these are valid; else both report the same error. Nothing is asked of
the level but that it is not empty, because an empty variable is none. -/
theorem load_eq_ofEnvironment (path : String) (named : s.logLevel ≠ "")
    (written : s.WrittenIn text) :
    load path (some text.toUTF8) = ofEnvironment s.environment ∧
    (∀ t, load path (some text.toUTF8) = .ok t ↔ t = s ∧ s.Valid) ∧
    ∀ e, load path (some text.toUTF8) = .error e ↔
      (e = .badLevel s.logLevel ∧ ¬s.HasLevel) ∨
      (e = .emptyQueue ∧ s.HasLevel ∧ s.queueCapacity = 0) := by
  rw [load_of_writtenIn written, ofEnvironment_environment named]
  exact ⟨rfl, fun _ => validated_eq_ok_iff, fun _ => validated_eq_error_iff⟩

/-- An object with its members in another order, one of them unknown and given twice. -/
def sampleJson : Json :=
  .object
    [("note", .object []), ("routing", .object [("rng_seed", .null)]),
      ("audit", .object [("unit", .null), ("queue_capacity", .int 18446744073709551615)]),
      ("log_level", .string "\u2003+05\t"), ("note", .null)]

/-- The text of the object. -/
def sampleText : String :=
  "\x7b\"note\":\x7b\x7d,\"routing\":\x7b\"rng_seed\":null\x7d," ++
    "\"audit\":\x7b\"unit\":null,\"queue_capacity\":18446744073709551615\x7d," ++
    "\"log_level\":\"\u2003+05\\t\",\"note\":null\x7d"

/-- The settings that the text says. -/
def sampleSettings : Settings := ⟨"\u2003+05\t", 18446744073709551615, none⟩

theorem load_eq_ofEnvironment_of_sampleText :
    sampleSettings.logLevel ≠ "" ∧ sampleSettings.WrittenIn sampleText ∧
      load "settings.json" (some sampleText.toUTF8) = .ok sampleSettings ∧
      ofEnvironment ⟨some "\u2003+05\t", some "18446744073709551615", none⟩ =
        .ok sampleSettings := by
  have named : sampleSettings.logLevel ≠ "" := by decide
  have capacity : (Json.int 18446744073709551615).Fits := @Json.fits_word 18446744073709551615
  have text : sampleJson.toText = sampleText := by decide +kernel
  have read : Node.ofText sampleText = some sampleJson.toNode :=
    text ▸ Node.ofText_toText (by simp [sampleJson, capacity])
  have written : sampleSettings.WrittenIn sampleText :=
    ⟨_, Node.ofText_eq_some_iff.mp read, _, _, Node.holds_toNode (.refl _),
      .given .null (Node.holds_toNode (.refl _)), Node.holds_toNode (List.reverse_perm [_, _, _])⟩
  have level : sampleSettings.HasLevel :=
    ⟨.trace, ['\u2003'], "+05".toList, ['\t'], List.all_eq_true.mp rfl, List.all_eq_true.mp rfl,
      .number (.plus 1), rfl⟩
  obtain ⟨same, accepted, -⟩ := load_eq_ofEnvironment "settings.json" named written
  have loaded := (accepted sampleSettings).mpr ⟨rfl, by decide, level⟩
  exact ⟨named, written, loaded, same.symm.trans loaded⟩

end CallExchange.Settings
