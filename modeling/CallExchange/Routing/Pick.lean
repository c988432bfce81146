import CallExchange.Campaign
import CallExchange.Random.Source

/-!
# Choosing a destination by weight

A destination is chosen with a probability in proportion to its weight: a source is asked for a
number below the sum of the weights, and the destination is the one in whose share the number falls,
the shares being laid out in the order of the list. Destinations without a positive weight have no
share.

## Main definitions

* `Destination.share` — the weight if it is positive, else nothing
* `Destination.total` — the sum of the shares
* `Destination.indexOf?` — the place of the destination in whose share a number falls
* `Destination.pick` — the question asked and the destination picked
* `Destination.picks` — several picks from one source
-/

namespace CallExchange.Destination

/-- The destination has a positive weight. -/
def isEligible (d : Destination) : Bool := 0 < d.weight

/-- The size of a destination's share. -/
def share (d : Destination) : UInt64 :=
  if d.isEligible then UInt64.ofNat d.weight.toInt.toNat else 0

/-- The sum of the shares. -/
def total (ds : List Destination) : UInt64 := ds.foldl (fun sum d => sum + d.share) 0

/-- The place of the destination in whose share a number falls, `before` being the sum of the
shares before the list. -/
def indexOf? (draw before : UInt64) : List Destination → Option Nat
  | [] => none
  | d :: ds =>
    if d.isEligible && draw < before + d.share then some 0
    else (indexOf? draw (before + d.share) ds).map (· + 1)

/-- A pick: the bound that a source was asked for, if it was asked, and the place picked. -/
structure Pick where
  asked : Option UInt64
  index : Option Nat
  deriving DecidableEq, Repr, Inhabited

/-- Picks a destination with the answer of a source. Without a positive weight nothing is asked and
nothing picked. -/
def pick (ds : List Destination) (answer : UInt64 → UInt64) : Pick :=
  let sum := total ds
  if sum = 0 then ⟨none, none⟩ else ⟨some sum, indexOf? (answer sum) 0 ds⟩

/-- The destination of a pick. -/
def Pick.destination? (p : Pick) (ds : List Destination) : Option Destination :=
  p.index.bind (ds[·]?)

/-- Picks one destination after the other from a source, which goes on from pick to pick. -/
def picks (ds : List Destination) : Nat → Random.Source → List Pick
  | 0, _ => []
  | times + 1, source =>
    let p := pick ds source.answer
    p :: picks ds times (source.after p.asked.toList)

end CallExchange.Destination
