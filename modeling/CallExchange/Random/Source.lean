import CallExchange.Random.ChaCha

/-!
# Sources of random choices

A source answers the question "which number below this bound?". A seeded source answers from the
keystream of its seed: it takes 64-bit words one after another until one is acceptable. A word is
multiplied with the bound; the high half of the product is the answer and the low half decides
whether the word is acceptable, so that every answer has the same number of acceptable words. A
scripted source answers from a list of numbers, which it goes round and round. An unseeded source
promises nothing about its answers but the bound.

## Main definitions

* `Random.zone` — the greatest acceptable low half
* `Random.accept?` — the answer that a word gives, if it is acceptable
* `Random.Source` — the kinds of source, each with its state
* `Random.Source.below` — one question: the answer, if the bound admits any, and the next state
-/

namespace CallExchange.Random

/-- The number of zero bits before the first one of a word. -/
def leadingZeros (w : UInt64) : Nat := if w = 0 then 64 else 63 - w.toNat.log2

/-- The greatest acceptable low half for a bound: the bound moved to the top of the word, less
one. -/
def zone (upper : UInt64) : UInt64 := (upper <<< UInt64.ofNat (leadingZeros upper)) - 1

/-- The answer that a word gives for a bound: the high half of their product, if the low half is
acceptable. -/
def accept? (upper v : UInt64) : Option UInt64 :=
  let product := v.toNat * upper.toNat
  if product % UInt64.size ≤ (zone upper).toNat then some (UInt64.ofNat (product / UInt64.size))
  else none

/-- The first answer that the words from a place on give, with the place after it. No more than
`fuel` words are tried. -/
def firstAnswer (words : Nat → UInt64) (upper : UInt64) : Nat → Nat → Option (UInt64 × Nat)
  | 0, _ => none
  | fuel + 1, place =>
    match accept? upper (words place) with
    | some answer => some (answer, place + 1)
    | none => firstAnswer words upper fuel (place + 1)

/-- More words than any search needs: at least half of all words are acceptable. -/
def patience : Nat := UInt64.size

/-- A source of random choices with its state. -/
inductive Source where
  /-- Answers from a list, the place being the number of questions so far. -/
  | scripted (answers : List UInt64) (place : Nat)
  /-- Answers from the keystream of a seed, the place being the number of words taken so far. -/
  | seeded (seed : UInt64) (place : Nat)
  /-- Answers nothing that a caller may rely on. -/
  | unseeded
  deriving Repr, Inhabited

namespace Source

/-- One question: a number below `upper`, unless there is none, and the state after it. A seeded
source without a bound takes no word. -/
def below (upper : UInt64) : Source → Option UInt64 × Source
  | .scripted answers place =>
    let answer :=
      match answers[place % answers.length]? with
      | some d => d % upper
      | none => 0
    (some answer, .scripted answers (place + 1))
  | .seeded seed place =>
    if upper = 0 then (none, .seeded seed place)
    else
      match firstAnswer (ChaCha.doubleWord (ChaCha.keyOfSeed seed)) upper patience place with
      | some (answer, place) => (some answer, .seeded seed place)
      | none => (none, .seeded seed place)
  | .unseeded => (if upper = 0 then none else some 0, .unseeded)

/-- A source from its first word on: that of a seed, or one that promises nothing. -/
def ofSeed? : Option UInt64 → Source
  | some seed => .seeded seed 0
  | none => .unseeded

/-- A source of scripted answers from the first one on. -/
def ofAnswers (answers : List UInt64) : Source := .scripted answers 0

/-- The answers to a list of questions, absent where the bound admits none. -/
def answers (s : Source) : List UInt64 → List (Option UInt64)
  | [] => []
  | upper :: rest =>
    let (answer, s) := s.below upper
    answer :: answers s rest

/-- The answer that a source would give now; zero if it gives none. -/
def answer (s : Source) (upper : UInt64) : UInt64 := (s.below upper).1.getD 0

/-- The source after a list of questions. -/
def after (s : Source) (uppers : List UInt64) : Source :=
  uppers.foldl (fun s upper => (s.below upper).2) s

end Source

end CallExchange.Random
