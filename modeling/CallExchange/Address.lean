import CallExchange.Json.Literal
import CallExchange.Text.Decimal

/-!
# Internet addresses

An address has four octets (version 4) or eight groups of 16 bits (version 6). The written form of
a version 6 address is the canonical one: groups in lower-case hexadecimal without leading zeros,
the first longest run of two or more zero groups shortened to `::`. An address that embeds a version
4 address behind the group `ffff` shows its last two groups as octets.

## Main definitions

* `Address` — an address of either version
* `Address.write` — the canonical text
* `Address.read?` — the address that a text names
-/

namespace CallExchange

open Text

/-- An internet address. -/
inductive Address where
  | v4 (a b c d : UInt8)
  | v6 (groups : Vector UInt16 8)
  deriving DecidableEq, Repr

namespace Address

/-! ### Writing -/

/-- Four octets with points between them. -/
def writeOctets (a b c d : UInt8) : List Char :=
  Decimal.ofNat a.toNat ++ '.' :: Decimal.ofNat b.toNat ++ '.' :: Decimal.ofNat c.toNat ++
    '.' :: Decimal.ofNat d.toNat

/-- Groups with colons between them. -/
def writeGroups : List UInt16 → List Char
  | [] => []
  | [g] => Nat.toDigits 16 g.toNat
  | g :: gs => Nat.toDigits 16 g.toNat ++ ':' :: writeGroups gs

/-- The number of zero groups that a list starts with. -/
def leadingZeros (gs : List UInt16) : Nat := (gs.takeWhile (· == 0)).length

/-- Start and length of the first longest run of zero groups. -/
def zeroRun (gs : List UInt16) : Nat × Nat :=
  (List.range gs.length).foldl
    (fun best i =>
      let n := leadingZeros (gs.drop i)
      if best.2 < n then (i, n) else best)
    (0, 0)

/-- The characters of a version 6 address. -/
def writeV6 (gs : List UInt16) : List Char :=
  match gs with
  | [0, 0, 0, 0, 0, 0xFFFF, x, y] =>
    "::ffff:".toList ++
      writeOctets (x >>> 8).toUInt8 x.toUInt8 (y >>> 8).toUInt8 y.toUInt8
  | gs =>
    let run := zeroRun gs
    if 1 < run.2 then
      writeGroups (gs.take run.1) ++ ':' :: ':' :: writeGroups (gs.drop (run.1 + run.2))
    else writeGroups gs

/-- The canonical text of an address. -/
def write : Address → String
  | .v4 a b c d => String.ofList (writeOctets a b c d)
  | .v6 groups => String.ofList (writeV6 groups.toList)

/-! ### Reading -/

/-- The parts of a text between the occurrences of a character. -/
def parts (separator : Char) : List Char → List (List Char)
  | [] => [[]]
  | c :: cs =>
    if c = separator then [] :: parts separator cs
    else
      match parts separator cs with
      | [] => [[c]]
      | p :: ps => (c :: p) :: ps

/-- An octet: one to three digits without a leading zero. -/
def octet? (cs : List Char) : Option UInt8 :=
  if Decimal.isDigits cs && cs.length ≤ 3 && (cs.length = 1 || cs.head? ≠ some '0') then
    let n := Decimal.value cs
    if n < 256 then some (UInt8.ofNat n) else none
  else none

/-- Four octets with points between them. -/
def octets? (cs : List Char) : Option (UInt8 × UInt8 × UInt8 × UInt8) :=
  match parts '.' cs with
  | [a, b, c, d] => do return (← octet? a, ← octet? b, ← octet? c, ← octet? d)
  | _ => none

/-- A group: one to four hexadecimal digits. -/
def group? (cs : List Char) : Option UInt16 :=
  if cs.isEmpty || 4 < cs.length then none
  else
    (cs.mapM Json.Literal.hexValue).map fun ds =>
      UInt16.ofNat (ds.foldl (fun n d => 16 * n + d) 0)

/-- The 16 bits of two octets. -/
def join (high low : UInt8) : UInt16 := high.toUInt16 <<< 8 ||| low.toUInt16

/-- Groups with colons between them, the last two perhaps as octets. -/
def groups? : List (List Char) → Option (List UInt16)
  | [] => some []
  | [last] =>
    match octets? last with
    | some (a, b, c, d) => some [join a b, join c d]
    | none => (group? last).map ([·])
  | p :: ps => do return (← group? p) :: (← groups? ps)

/-- The parts of a text before and after its first `::`. -/
def atGap : List Char → Option (List Char × List Char)
  | ':' :: ':' :: cs => some ([], cs)
  | c :: cs => (atGap cs).map fun (before, after) => (c :: before, after)
  | [] => none

/-- The groups of a text that may be empty. -/
def side? (cs : List Char) : Option (List UInt16) :=
  if cs.isEmpty then some [] else groups? (parts ':' cs)

/-- A version 6 address of eight groups. -/
def ofGroups? (gs : List UInt16) : Option Address :=
  if h : gs.length = 8 then some (.v6 ⟨gs.toArray, by simpa using h⟩) else none

/-- The version 6 address of a text: eight groups, or fewer with a gap in one place. -/
def v6? (cs : List Char) : Option Address :=
  match atGap cs with
  | none => do ofGroups? (← groups? (parts ':' cs))
  | some (before, after) => do
    let left ← side? before
    let right ← side? after
    if left.length + right.length < 8 then
      ofGroups? (left ++ List.replicate (8 - left.length - right.length) 0 ++ right)
    else none

/-- The address that a text names. -/
def read? (s : String) : Option Address :=
  let cs := s.toList
  match octets? cs with
  | some (a, b, c, d) => some (.v4 a b c d)
  | none => v6? cs

end Address

end CallExchange
