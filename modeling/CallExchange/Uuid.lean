/-!
# Universally unique identifiers

An identifier is 32 hexadecimal digits. It is written in lower case with hyphens after the 8th,
12th, 16th and 20th digit, and read in that form, without the hyphens, within braces, or after
`urn:uuid:`; digits and letters may be of either case.

## Main definitions

* `Uuid` — 32 hexadecimal digits
* `Uuid.write`, `Uuid.read?` — the written form, and the identifier of a text
-/

namespace CallExchange

/-- An identifier of 128 bits, as its 32 hexadecimal digits. -/
structure Uuid where
  digits : List (Fin 16)
  length_digits : digits.length = 32
  deriving DecidableEq, Repr

namespace Uuid

/-- The identifier whose digits are all zero. -/
def nil : Uuid := ⟨List.replicate 32 ⟨0, by decide⟩, List.length_replicate⟩

instance : Inhabited Uuid := ⟨nil⟩

/-- The hexadecimal digit of a value, in lower case. -/
def digitChar (d : Fin 16) : Char := Nat.digitChar d.val

/-- The value of a hexadecimal digit of either case. -/
def digit? (c : Char) : Option (Fin 16) :=
  let n := c.toNat
  if h : 0x30 ≤ n ∧ n ≤ 0x39 then some ⟨n - 0x30, by omega⟩
  else if h : 0x61 ≤ n ∧ n ≤ 0x66 then some ⟨n - 0x57, by omega⟩
  else if h : 0x41 ≤ n ∧ n ≤ 0x46 then some ⟨n - 0x37, by omega⟩
  else none

theorem digit?_digitChar : ∀ d : Fin 16, digit? (digitChar d) = some d := by decide

/-- The values of a list of hexadecimal digits. -/
def digits? : List Char → Option (List (Fin 16))
  | [] => some []
  | c :: cs =>
    match digit? c, digits? cs with
    | some d, some ds => some (d :: ds)
    | _, _ => none

/-- A list of hexadecimal digits is read back from its characters. -/
theorem digits?_map_digitChar (ds : List (Fin 16)) : digits? (ds.map digitChar) = some ds := by
  induction ds with
  | nil => rfl
  | cons d ds ih => simp [digits?, digit?_digitChar, ih]

/-- The characters of the written form. -/
def chars (u : Uuid) : List Char :=
  let cs := u.digits.map digitChar
  cs.take 8 ++ '-' :: ((cs.drop 8).take 4 ++ '-' :: ((cs.drop 12).take 4 ++
    '-' :: ((cs.drop 16).take 4 ++ '-' :: cs.drop 20)))

/-- The written form: groups of 8, 4, 4, 4 and 12 digits in lower case. -/
def write (u : Uuid) : String := String.ofList u.chars

/-- The identifier of 32 digits. -/
def ofDigits? (cs : List Char) : Option Uuid :=
  match digits? cs with
  | some ds => if h : ds.length = 32 then some ⟨ds, h⟩ else none
  | none => none

/-- The identifier of 36 characters with hyphens in their places. -/
def ofGroups? (cs : List Char) : Option Uuid :=
  if cs.length = 36 ∧ cs[8]? = some '-' ∧ cs[13]? = some '-' ∧ cs[18]? = some '-' ∧
      cs[23]? = some '-' then
    ofDigits? (cs.take 8 ++ (cs.drop 9).take 4 ++ (cs.drop 14).take 4 ++ (cs.drop 19).take 4 ++
      cs.drop 24)
  else none

/-- What may stand before the hyphenated form, in letters of either case. -/
def label : List Char := ['u', 'r', 'n', ':', 'u', 'u', 'i', 'd', ':']

/-- The identifier that a text names: 32 digits, or the hyphenated form, which may stand in braces
or after its label. `Char.toLower` changes letters of the basic Latin alphabet alone, so no other
letter passes for one of the label. -/
def read? (s : String) : Option Uuid :=
  let cs := s.toList
  if cs.length = 32 then ofDigits? cs
  else if cs.length = 36 then ofGroups? cs
  else if cs.length = 38 ∧ cs.head? = some '{' ∧ cs.getLast? = some '}' then
    ofGroups? (cs.drop 1).dropLast
  else if cs.length = 45 ∧ (cs.take 9).map Char.toLower = label then ofGroups? (cs.drop 9)
  else none

end Uuid

end CallExchange
