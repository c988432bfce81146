import CallExchange.Proofs.Random.Words
import CallExchange.Proofs.Routing.Proportion

/-!
# A seeded source is fair

A pick asks a seeded source for a number below the sum of the positive weights, and the source takes
words until one is acceptable. Every number has the same number of acceptable words. So among all
words, a destination is picked by exactly as many as its weight says, times that number, and at
least half of all words pick somebody.

## Main definitions

* `Destination.chosen?` — the place that a word picks, if it is acceptable
* `Destination.Fair` — what picks over seeded sources come to

## Main results

* `card_chosen` — how many words pick a destination
* `fair_of_few` — picks from few destinations are fair
-/

namespace CallExchange.Destination

open CallExchange.Random

variable {d : Destination} {ds : List Destination} {i : Nat}

/-- The place that a word picks, if it is acceptable for the sum of the weights. -/
def chosen? (ds : List Destination) (v : UInt64) : Option Nat :=
  (accept? (total ds) v).bind fun a => (pick ds fun _ => a).index

/-- What picks over seeded sources come to. -/
structure Fair (ds : List Destination) : Prop where
  /-- The bound that the source is asked for is the sum of the positive weights. -/
  exact : (total ds).toNat = weightSum ds
  /-- The acceptable words: as many for each unit of weight. -/
  accepted : {w ∈ Finset.range UInt64.size | (accept? (total ds) (.ofNat w)).isSome}.card =
    weightSum ds * 2 ^ leadingZeros (total ds)
  /-- At least half of all words are acceptable. -/
  half : UInt64.size ≤ 2 * (weightSum ds * 2 ^ leadingZeros (total ds))
  /-- The words that pick the destination at a place: as many for each unit of its weight, and none
  if it has no positive weight. -/
  chosen : ∀ i d, ds[i]? = some d →
    {w ∈ Finset.range UInt64.size | chosen? ds (.ofNat w) = some i}.card =
      d.weight.toNatClampNeg * 2 ^ leadingZeros (total ds)
  /-- A pick over a seeded source passes over words that are not acceptable, and picks the place of
  the first one that is. The source goes on behind it. -/
  seeded : ∀ seed place n, n < patience →
    (∀ k < n, accept? (total ds) (Source.word seed (place + k)) = none) →
    (accept? (total ds) (Source.word seed (place + n))).isSome →
    (pick ds (Source.seeded seed place).answer).index =
        chosen? ds (Source.word seed (place + n)) ∧
      (Source.seeded seed place).after (pick ds (Source.seeded seed place).answer).asked.toList =
        .seeded seed (place + n + 1)

theorem total_pos (few : Few ds) (some_weight : 0 < weightSum ds) : 0 < total ds := by
  rw [UInt64.lt_iff_toNat_lt, few.toNat_total]
  exact some_weight

/-- A destination is picked by as many words as its weight says, times the number of words for each
answer. -/
theorem card_chosen (few : Few ds) (some_weight : 0 < weightSum ds) (listed : ds[i]? = some d) :
    {w ∈ Finset.range UInt64.size | chosen? ds (.ofNat w) = some i}.card =
      d.weight.toNatClampNeg * tickets (total ds) := by
  have same : {w ∈ Finset.range UInt64.size | chosen? ds (.ofNat w) = some i} =
      words (total ds) fun a => (pick ds fun _ => a).index = some i := by
    ext w
    rw [Finset.mem_filter, Finset.mem_range, mem_words, chosen?, Option.bind_eq_some_iff]
  rw [same, card_words (total_pos few some_weight), few.toNat_total, filter_index_pick few listed,
    Nat.card_Ico, Nat.add_sub_cancel_left]

/-- As many words are acceptable as there are answers, times the number of words for each. -/
theorem card_accepted (few : Few ds) (some_weight : 0 < weightSum ds) :
    {w ∈ Finset.range UInt64.size | (accept? (total ds) (.ofNat w)).isSome}.card =
      weightSum ds * tickets (total ds) := by
  have same : {w ∈ Finset.range UInt64.size | (accept? (total ds) (.ofNat w)).isSome} =
      words (total ds) fun _ => True := by
    ext w
    rw [Finset.mem_filter, Finset.mem_range, mem_words, Option.isSome_iff_exists]
    simp only [and_true]
  rw [same, card_words (total_pos few some_weight), few.toNat_total, Finset.filter_true,
    Finset.card_range]

/-- A pick over a seeded source is decided by the first acceptable word. -/
theorem pick_of_rejected {seed : UInt64} {place n : Nat} (few : Few ds)
    (some_weight : 0 < weightSum ds) (within : n < patience)
    (rejected : ∀ k < n, accept? (total ds) (Source.word seed (place + k)) = none)
    (accepted : (accept? (total ds) (Source.word seed (place + n))).isSome) :
    (pick ds (Source.seeded seed place).answer).index =
        chosen? ds (Source.word seed (place + n)) ∧
      (Source.seeded seed place).after (pick ds (Source.seeded seed place).answer).asked.toList =
        .seeded seed (place + n + 1) := by
  obtain ⟨a, accepted⟩ := Option.isSome_iff_exists.mp accepted
  have below : (Source.seeded seed place).below (total ds) =
      (some a, .seeded seed (place + n + 1)) :=
    Source.below_of_rejected (total_pos few some_weight) within rejected accepted
  have answer : (Source.seeded seed place).answer (total ds) = a := by
    rw [Source.answer, below, Option.getD_some]
  rw [chosen?, accepted, Option.bind_some, pick_of_weightSum_pos few some_weight,
    pick_of_weightSum_pos few some_weight, answer]
  refine ⟨rfl, ?_⟩
  rw [Option.toList_some, Source.after, List.foldl_cons, List.foldl_nil, below]

/-- Picks from few destinations over seeded sources are fair. -/
theorem Few.fair (few : Few ds) (some_weight : 0 < weightSum ds) : Fair ds where
  exact := few.toNat_total
  accepted := card_accepted few some_weight
  half := few.toNat_total ▸ (tickets_bounds (total_pos few some_weight)).1
  chosen _ _ := card_chosen few some_weight
  seeded _ _ _ := pick_of_rejected few some_weight

/-- Picks from few destinations over seeded sources are fair, and every answer of a seeded source is
below the bound that it is asked for. -/
theorem fair_of_few (few : Few ds) (some_weight : 0 < weightSum ds) :
    Fair ds ∧ ∀ seed place upper a, 0 < upper →
      ((Source.seeded seed place).below upper).1 = some a → a < upper :=
  ⟨few.fair some_weight, fun _ _ _ _ => Source.lt_of_below_seeded⟩

/-- Of three desks the first has a quarter of the weight, and the second none. -/
def sampleDesks : List Destination := [⟨"sip:front", 1⟩, ⟨"sip:closed", -2⟩, ⟨"sip:hall", 3⟩]

/-- Half of all words are acceptable, and a quarter of these pick the front desk. -/
theorem fair_of_sampleDesks :
    Few sampleDesks ∧ 0 < weightSum sampleDesks ∧ Fair sampleDesks ∧
      {w ∈ Finset.range UInt64.size | chosen? sampleDesks (.ofNat w) = some 0}.card =
        2 ^ 61 := by
  have few : Few sampleDesks := by
    change 3 < 8589934592
    decide
  have fair := (fair_of_few few (by decide)).1
  exact ⟨few, by decide, fair, fair.chosen 0 ⟨"sip:front", 1⟩ rfl⟩

end CallExchange.Destination
