import CallExchange.Json.Members
import CallExchange.Json.Reader
import CallExchange.Settings.Basic

/-!
# Settings from a file

A settings file is one object with the members `log_level`, `audit` and `routing`; each of them and
each of their parts may be missing.

## Main definitions

* `Settings.ofNode` — the settings of a tree
* `Settings.ofText` — the settings of a text, not validated
* `Settings.load` — the valid settings of a file's bytes
-/

namespace CallExchange.Settings

/-- The part of the settings about the audit trail. -/
def auditPart (n : Node) : Option UInt64 := do
  let fs ← n.fields ["queue_capacity"]
  Node.defaulted Node.toWord Settings.default.queueCapacity "queue_capacity" fs

/-- The part of the settings about routing. -/
def routingPart (n : Node) : Option (Option UInt64) := do
  let fs ← n.fields ["rng_seed"]
  Node.optional Node.toWord "rng_seed" fs

/-- The settings of a tree. -/
def ofNode (n : Node) : Option Settings := do
  let fs ← n.fields ["log_level", "audit", "routing"]
  return {
    logLevel := ← Node.defaulted Node.toText Settings.default.logLevel "log_level" fs
    queueCapacity := ← Node.defaulted auditPart Settings.default.queueCapacity "audit" fs
    rngSeed := ← Node.defaulted routingPart Settings.default.rngSeed "routing" fs }

/-- The settings of a text, valid or not. -/
def ofText (text : String) : Except SettingsError Settings :=
  match (Node.ofText text).bind ofNode with
  | some s => .ok s
  | none => .error .notData

/-- The valid settings of a file: what it holds, if it exists, must be text. -/
def load (path : String) (contents : Option ByteArray) : Except SettingsError Settings :=
  match contents with
  | none => .error (.fileMissing path)
  | some bytes =>
    match String.fromUTF8? bytes with
    | none => .error (.fileNotText path)
    | some text =>
      match ofText text with
      | .error e => .error e
      | .ok s => s.validated

end CallExchange.Settings
