import CallExchange.Settings.Basic

/-!
# Settings from the environment

Three variables set up an exchange. One that is empty counts as not set.

## Main definitions

* `Environment` — the values of the variables
* `Settings.ofEnvironment` — the valid settings that they name
-/

namespace CallExchange

open Text

/-- The values of the variables that are set. -/
structure Environment where
  logLevel : Option String
  auditQueue : Option String
  rngSeed : Option String
  deriving DecidableEq, Repr, Inhabited

namespace Environment

/-- The value of a variable unless it is empty. -/
def nonEmpty (value : Option String) : Option String := value.filter fun s => s ≠ ""

end Environment

namespace Settings

/-- The number that a variable names, or a default if the variable is not set. -/
def wordOr {α : Type} (default : α) (ofWord : UInt64 → α) (bad : String → SettingsError)
    (value : Option String) : Except SettingsError α :=
  match Environment.nonEmpty value with
  | none => .ok default
  | some written =>
    match Decimal.readWord? written with
    | some n => .ok (ofWord n)
    | none => .error (bad written)

/-- The valid settings of an environment: both numbers are read before anything is validated. -/
def ofEnvironment (env : Environment) : Except SettingsError Settings := do
  let logLevel := (Environment.nonEmpty env.logLevel).getD Settings.default.logLevel
  let queueCapacity ← wordOr Settings.default.queueCapacity id .badCapacity env.auditQueue
  let rngSeed ← wordOr Settings.default.rngSeed some .badSeed env.rngSeed
  validated ⟨logLevel, queueCapacity, rngSeed⟩

end Settings

end CallExchange
