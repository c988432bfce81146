import CallExchange.Proofs.Wire.Records
import CallExchange.Wire.Format

/-!
# The written text is a normal form

Many texts say the same of a value. The one that is written of it says no less than any of them: it is
read as the very same value, and so written as the same text again.

A text can say every value of most kinds. Only free-form data has limits: it lists the members of an
object in their order, nests no deeper than a text may, and is not null.

## Main definitions

* `Format.Lawful` — the values with a property are those that are read, and they are read back
* `Wire.Kind.Sound` — the free-form data of a value can be held

## Main results

* `Wire.Kind.exists_read_iff` — the values that texts say are the sound ones
* `Wire.Kind.read_back` — what a text says is what the text that is written of it says
-/

namespace CallExchange

namespace Format

variable {α : Type} {f : Format α} {P : α → Prop} {a : α} {s : String}

/-- What is read from a tree has a property, and whatever has the property is read back from its own
data, in which all integers fit 64 bits. -/
structure Lawful (f : Format α) (P : α → Prop) : Prop where
  sound : ∀ {n : Node} {a : α}, n.Fits → f.ofNode? n = some a → P a
  fits : ∀ {a : α}, P a → (f.toJson a).Fits
  back : ∀ {a : α}, P a → f.ofNode? (f.toJson a).toNode = some a

/-- A format is lawful for all values if all of them are read back. -/
theorem lawful_of_back (fits : ∀ a, (f.toJson a).Fits)
    (back : ∀ a, f.ofNode? (f.toJson a).toNode = some a) : f.Lawful fun _ => True where
  sound _ _ := trivial
  fits _ := fits _
  back _ := back _

theorem Lawful.sound_of_read (lawful : f.Lawful P) (read : f.read? s = some a) : P a := by
  obtain ⟨n, tree, value⟩ := Option.bind_eq_some_iff.mp read
  exact lawful.sound (Node.fits_of_text tree) value

/-- A value is read back from its text. -/
theorem Lawful.read?_write (lawful : f.Lawful P) (sound : P a) : f.read? (f.write a) = some a := by
  rw [read?, write, Node.ofText_toText (lawful.fits sound), Option.bind_some, lawful.back sound]

end Format

namespace Wire.Kind

/-- The free-form data of the value, if it has any, can be held by a member. -/
def Sound : (k : Kind) → k.Value → Prop
  | override, v => ∀ j ∈ Override.metadata v, j.Storable
  | entry, v => ∀ j ∈ Entry.metadata v, j.Storable
  | adminAction, v => ∀ j ∈ AdminAction.metadata v, j.Storable
  | posting, v => ∀ j ∈ PostingRequest.metadata v, j.Storable
  | adminCredit, v => ∀ j ∈ AdminCreditRequest.metadata v, j.Storable
  | call, _ | answer, _ | evaluation, _ | destination, _ | role, _ | wallet, _ | walletStatus, _ |
    entryType, _ | balance, _ => True

/-- The formats of the values that are exchanged as text are lawful. -/
theorem lawful (k : Kind) : k.format.Lawful k.Sound := by
  cases k with
  | call => exact Format.lawful_of_back InboundCall.fits_toJson InboundCall.ofNode?_toJson
  | answer => exact Format.lawful_of_back CallAnswer.fits_toJson CallAnswer.ofNode?_toJson
  | override =>
    exact ⟨Override.storable_metadata, Override.fits_toJson, Override.ofNode?_toJson⟩
  | evaluation => exact Format.lawful_of_back Evaluation.fits_toJson Evaluation.ofNode?_toJson
  | destination => exact Format.lawful_of_back Destination.fits_toJson Destination.ofNode?_toJson
  | role => exact Format.lawful_of_back (fun _ => .string) Role.ofNode?_name
  | wallet => exact Format.lawful_of_back Wallet.fits_toJson Wallet.ofNode?_toJson
  | walletStatus => exact Format.lawful_of_back (fun _ => .string) WalletStatus.ofNode?_name
  | entry => exact ⟨Entry.storable_metadata, Entry.fits_toJson, Entry.ofNode?_toJson⟩
  | entryType => exact Format.lawful_of_back (fun _ => .string) EntryType.ofNode?_name
  | balance => exact Format.lawful_of_back Balance.fits_toJson Balance.ofNode?_toJson
  | adminAction =>
    exact ⟨AdminAction.storable_metadata, AdminAction.fits_toJson, AdminAction.ofNode?_toJson⟩
  | posting =>
    exact ⟨PostingRequest.storable_metadata, PostingRequest.fits_toJson,
      PostingRequest.ofNode?_toJson⟩
  | adminCredit =>
    exact ⟨AdminCreditRequest.storable_metadata, AdminCreditRequest.fits_toJson,
      AdminCreditRequest.ofNode?_toJson⟩

/-- The values that texts say are those whose free-form data can be held. -/
theorem exists_read_iff (k : Kind) (v : k.Value) :
    (∃ s, k.format.read? s = some v) ↔ k.Sound v :=
  ⟨fun ⟨_, read⟩ => k.lawful.sound_of_read read, fun sound => ⟨_, k.lawful.read?_write sound⟩⟩

/-- What a text says is read back from the text that is written of it. -/
theorem read?_write {k : Kind} {s : String} {v : k.Value} (read : k.format.read? s = some v) :
    k.format.read? (k.format.write v) = some v :=
  k.lawful.read?_write (k.lawful.sound_of_read read)

/-- The text that is written of what a text says is a normal form: it is read as the same value, the
value is written as the same text again, and no other value that a text says is written so. -/
theorem read_back (k : Kind) {s : String} {v : k.Value} (read : k.format.read? s = some v) :
    k.format.read? (k.format.write v) = some v ∧
      (k.format.read? (k.format.write v)).map k.format.write = some (k.format.write v) ∧
      ∀ {s' : String} {v' : k.Value}, k.format.read? s' = some v' →
        k.format.write v' = k.format.write v → v' = v := by
  have back : k.format.read? (k.format.write v) = some v := read?_write read
  refine ⟨back, by rw [back, Option.map_some], fun {s' v'} read' same => ?_⟩
  -- the one text is read as both values
  have back' : k.format.read? (k.format.write v') = some v' := read?_write read'
  rw [same, back] at back'
  exact (Option.some.inj back').symm

/-- An override as the writer would never write it: a list instead of an object, an escape that is
not needed, a leap second away from Greenwich, and a name given twice. -/
def listedOverride : String :=
  "[\"\\u0077\",null,\"o\",\"s\",\"2017-01-01 05:29:60.50+0530\",\x7b\"b\":1,\"a\":[],\"b\":-2\x7d]"

/-- The same override as the writer writes it. -/
def writtenOverride : String :=
  "\x7b\"workspace_id\":\"w\",\"campaign_id\":null,\"override_id\":\"o\",\"connect_to\":\"s\"," ++
    "\"expires_at\":\"2016-12-31T23:59:60.500Z\",\"metadata\":\x7b\"a\":[],\"b\":-2\x7d\x7d"

theorem read_back_listedOverride :
    ∃ v : Override, override.format.read? listedOverride = some v ∧
      override.format.read? (override.format.write v) = some v ∧
      override.format.write v = writtenOverride := by
  have written :
      (override.format.read? listedOverride).map override.format.write = some writtenOverride := by
    decide +kernel
  obtain ⟨v, read, same⟩ := Option.map_eq_some_iff.mp written
  exact ⟨v, read, (read_back override read).1, same⟩

end Wire.Kind

end CallExchange
