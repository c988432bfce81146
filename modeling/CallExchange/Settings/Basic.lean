import CallExchange.Log
import CallExchange.Text.Blank
import CallExchange.Text.Decimal
import CallExchange.Text.Quoted

/-!
# Settings

The exchange is set up by a log level, the capacity of the audit queue, and perhaps a seed for the
choice of destinations. The level is kept as it was written: a name in any case or a number from 1
(errors) to 5 (traces), with white space around it allowed. Settings are valid if the level is one
and the queue has room.

## Main definitions

* `Settings` — the values, with their defaults
* `LogLevel.parse?` — the level of a text
* `Settings.level`, `Settings.validated` — the level, and the settings if they are valid
* `SettingsError` — what can be wrong, with its message
-/

namespace CallExchange

open Text

/-- The values that set up an exchange. -/
structure Settings where
  logLevel : String
  queueCapacity : UInt64
  rngSeed : Option UInt64
  deriving DecidableEq, Repr

/-- The settings that hold unless something else is said. -/
def Settings.default : Settings := ⟨"info", 1024, none⟩

instance : Inhabited Settings := ⟨.default⟩

/-- What can be wrong with settings. -/
inductive SettingsError where
  | notData
  | fileMissing (path : String)
  | fileNotText (path : String)
  | badLevel (written : String)
  | emptyQueue
  | badCapacity (written : String)
  | badSeed (written : String)
  /-- The log has a subscriber already. -/
  | subscriberSet
  | other (words : String)
  deriving DecidableEq, Repr, Inhabited

namespace SettingsError

/-- What is wrong, in words. -/
def words : SettingsError → String
  | .notData => "not structured data"
  | .fileMissing path => "failed to read " ++ path ++ ": No such file or directory (os error 2)"
  | .fileNotText path => "failed to read " ++ path ++ ": stream did not contain valid UTF-8"
  | .badLevel written => "invalid log level " ++ Quoted.show written
  | .emptyQueue => "audit queue capacity must be positive"
  | .badCapacity written => "SWITCHBOARD_AUDIT_QUEUE is not a number: " ++ written
  | .badSeed written => "SWITCHBOARD_RNG_SEED is not a u64: " ++ written
  | .subscriberSet =>
    "failed to install subscriber: a global default trace dispatcher has already been set"
  | .other words => words

/-- The message of an error. -/
def message (e : SettingsError) : String := "configuration error: " ++ e.words

end SettingsError

namespace LogLevel

/-- All levels, from errors to traces. -/
def all : List LogLevel := [.error, .warn, .info, .debug, .trace]

/-- A text in capital letters, as far as they are of the basic Latin alphabet. -/
def capitals (cs : List Char) : List Char := cs.map Char.toUpper

/-- The level of a name in any case. -/
def ofName? (s : String) : Option LogLevel :=
  all.find? fun l => l.name.toList = capitals s.toList

/-- The level of a number from 1 to 5. -/
def ofNumber? : Nat → Option LogLevel
  | 1 => some .error
  | 2 => some .warn
  | 3 => some .info
  | 4 => some .debug
  | 5 => some .trace
  | _ => none

/-- The level of a text: a number, or a name in any case. It is opened by its equation alone, so that
what depends on a level can be looked at without its text being read. -/
@[irreducible] def parse? (s : String) : Option LogLevel :=
  match (Decimal.readWord? s).bind fun n => ofNumber? n.toNat with
  | some l => some l
  | none => ofName? s

end LogLevel

namespace Settings

/-- The level that the settings name. -/
def level (s : Settings) : Except SettingsError LogLevel :=
  match LogLevel.parse? (trim s.logLevel) with
  | some l => .ok l
  | none => .error (.badLevel s.logLevel)

/-- The settings if they are valid: the level is looked at first, then the queue. -/
def validated (s : Settings) : Except SettingsError Settings :=
  match s.level with
  | .error e => .error e
  | .ok _ => if s.queueCapacity = 0 then .error .emptyQueue else .ok s

end Settings

end CallExchange
