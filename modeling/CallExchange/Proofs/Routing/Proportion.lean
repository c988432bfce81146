import CallExchange.Proofs.Routing.Pick
import Mathlib.Algebra.GroupWithZero.Nat
import Mathlib.Order.Interval.Finset.Nat

/-!
# Every destination gets its share

A number below the sum of the positive weights falls into the share of exactly one destination: the
shares are laid out one after the other in the order of the list, each as long as its weight. So
among all numbers that a source may answer, a destination is picked by exactly as many as its weight
says, and destinations without a positive weight make no difference.

## Main definitions

* `Destination.weightSum` — the exact sum of the positive weights
* `Destination.Holds` — a number falls into the share of the destination at a place
* `Destination.Proportional` — what a pick from a list of destinations comes to

## Main results

* `indexOf?_eq_some_iff` — the place that is found is that of the share into which a number falls
* `find_filter_isEligible` — destinations without a share make no difference
* `proportional_of_few` — a pick from few destinations is proportional to their weights
-/

namespace CallExchange.Destination

variable {d e : Destination} {ds es : List Destination} {answer : UInt64 → UInt64}
  {draw before : UInt64} {i j r : Nat}

/-- The exact sum of the positive weights. -/
def weightSum (ds : List Destination) : Nat :=
  ((ds.filter fun d => 0 < d.weight).map fun d => d.weight.toNatClampNeg).sum

/-- A number falls into the share of the destination at a place: the share begins after the shares
of the destinations before it, and is as long as its weight. -/
structure Holds (ds : List Destination) (r i : Nat) (d : Destination) : Prop where
  listed : ds[i]? = some d
  positive : 0 < d.weight
  begins : weightSum (ds.take i) ≤ r
  ends : r < weightSum (ds.take i) + d.weight.toNatClampNeg

/-- What a pick from a list of destinations comes to. -/
structure Proportional (ds : List Destination) : Prop where
  /-- No sum of weights on the way wraps. -/
  exact : ∀ n, (total (ds.take n)).toNat = weightSum (ds.take n)
  /-- Without a positive weight nothing is asked and nothing picked, and only then. -/
  unasked : ∀ answer, pick ds answer = ⟨none, none⟩ ↔ weightSum ds = 0
  /-- Else the source is asked one question, whose bound is the sum of the positive weights: no
  other answer of the source matters. -/
  asked : 0 < weightSum ds → ∀ answer, ∃ upper, upper.toNat = weightSum ds ∧
    (pick ds answer).asked = some upper ∧
    ∀ other, other upper = answer upper → pick ds other = pick ds answer
  /-- An answer below the bound picks the destination into whose share it falls. There is one such
  destination and one only. -/
  placed : ∀ answer, (answer (total ds)).toNat < weightSum ds →
    ∃ i d, (pick ds answer).index = some i ∧ (pick ds answer).destination? ds = some d ∧
      Holds ds (answer (total ds)).toNat i d ∧
      ∀ j e, Holds ds (answer (total ds)).toNat j e → j = i
  /-- A destination is picked by as many of the numbers below the bound as its weight says: by none
  if it has no positive weight. -/
  counted : ∀ i d, ds[i]? = some d →
    {r ∈ Finset.range (weightSum ds) |
      (pick ds fun _ => UInt64.ofNat r).index = some i}.card = d.weight.toNatClampNeg
  /-- Whatever the source answers, only a positive weight is picked. -/
  eligible : ∀ answer d, (pick ds answer).destination? ds = some d → d ∈ ds ∧ 0 < d.weight
  /-- Destinations without a positive weight may be in the list or not, wherever: neither the
  question nor the destination that is picked changes. -/
  idle : ∀ es, (es.filter fun d => 0 < d.weight) = (ds.filter fun d => 0 < d.weight) →
    ∀ answer, (pick es answer).asked = (pick ds answer).asked ∧
      (pick es answer).destination? es = (pick ds answer).destination? ds

/-! ### Sums of weights -/

/-- A share is as large as the weight, or nothing if the weight is not positive. -/
theorem toNat_share_eq : d.share.toNat = d.weight.toNatClampNeg := toNat_share

@[simp] theorem weightSum_nil : weightSum [] = 0 := rfl

@[simp] theorem weightSum_cons : weightSum (d :: ds) = d.weight.toNatClampNeg + weightSum ds := by
  by_cases positive : 0 < d.weight
  · simp [weightSum, positive]
  · have nothing : d.weight.toNatClampNeg = 0 := by
      rw [← share_pos_iff, toNat_share_eq] at positive
      omega
    simp [weightSum, positive, nothing]

/-- The shares add up to the positive weights. -/
theorem shares_eq_weightSum (ds : List Destination) : shares ds = weightSum ds := by
  induction ds with
  | nil => rfl
  | cons d ds ih => rw [shares_cons, weightSum_cons, toNat_share_eq, ih]

/-- Up to the end of a share, the weights add up to at most what they add up to at a later place. -/
theorem weightSum_take_add_le (listed : ds[i]? = some d) (before : i < j) :
    weightSum (ds.take i) + d.weight.toNatClampNeg ≤ weightSum (ds.take j) := by
  induction ds generalizing i j with
  | nil => cases listed
  | cons e ds ih =>
    obtain ⟨j, rfl⟩ := Nat.exists_eq_add_one_of_ne_zero (Nat.ne_zero_of_lt before)
    cases i with
    | zero =>
      cases listed
      simp
    | succ i =>
      have later := ih listed (Nat.lt_of_succ_lt_succ before)
      simp only [List.take_succ_cons, weightSum_cons]
      omega

/-- The share of a destination lies within the sum of the positive weights. -/
theorem weightSum_take_add_le_weightSum (listed : ds[i]? = some d) :
    weightSum (ds.take i) + d.weight.toNatClampNeg ≤ weightSum ds := by
  have place : i < ds.length := (List.getElem?_eq_some_iff.mp listed).1
  simpa using weightSum_take_add_le listed place

theorem Few.weightSum_lt (few : Few ds) : weightSum ds < UInt64.size :=
  shares_eq_weightSum ds ▸ few.shares_lt

theorem Few.toNat_total (few : Few ds) : (total ds).toNat = weightSum ds :=
  (Destination.toNat_total few).trans (shares_eq_weightSum ds)

theorem Few.take (few : Few ds) (n : Nat) : Few (ds.take n) :=
  Nat.lt_of_le_of_lt (List.length_take_le' n ds) few

/-! ### The place of a number -/

/-- The place that is found is that of the share into which a number falls, once the shares before
the list have been passed. -/
theorem indexOf?_eq_some_iff (fits : before.toNat + weightSum ds < UInt64.size)
    (passed : before.toNat ≤ draw.toNat) :
    indexOf? draw before ds = some i ↔ ∃ d, ds[i]? = some d ∧
      before.toNat + weightSum (ds.take i) ≤ draw.toNat ∧
      draw.toNat < before.toNat + weightSum (ds.take i) + d.weight.toNatClampNeg := by
  -- the shares that have been passed grow by one with each destination that is passed
  induction ds generalizing before i with
  | nil => simp [indexOf?]
  | cons d ds ih =>
    rw [weightSum_cons] at fits
    have exact : (before + d.share).toNat = before.toNat + d.weight.toNatClampNeg := by
      rw [toNat_add_share (by rw [toNat_share_eq]; omega), toNat_share_eq]
    unfold indexOf?
    by_cases here : draw.toNat < before.toNat + d.weight.toNatClampNeg
    · have eligible : d.isEligible = true := by
        rw [isEligible_iff, ← share_pos_iff, toNat_share_eq]
        omega
      have found : (d.isEligible && decide (draw < before + d.share)) = true := by
        simp only [eligible, Bool.true_and, decide_eq_true_eq, UInt64.lt_iff_toNat_lt, exact, here]
      rw [if_pos found]
      cases i with
      | zero => simp [passed, here]
      | succ i =>
        simp only [Option.some.injEq, Nat.zero_ne_add_one, false_iff, List.take_succ_cons,
          weightSum_cons]
        rintro ⟨e, -, begins, -⟩
        omega
    · have missed : ¬(d.isEligible && decide (draw < before + d.share)) = true := by
        simp only [Bool.and_eq_true, decide_eq_true_eq, UInt64.lt_iff_toNat_lt, exact]
        exact fun both => here both.2
      rw [if_neg missed]
      cases i with
      | zero => simp [here]
      | succ i =>
        have fits' : (before + d.share).toNat + weightSum ds < UInt64.size := by omega
        have passed' : (before + d.share).toNat ≤ draw.toNat := by omega
        have later : indexOf? draw (before + d.share) ds = some i ↔ _ := ih fits' passed'
        rw [exact] at later
        simp only [Option.map_eq_some_iff, Nat.add_right_cancel_iff, exists_eq_right, later,
          List.getElem?_cons_succ, List.take_succ_cons, weightSum_cons, Nat.add_assoc]

/-- From the first share on, the place that is found is that of the share into which a number
falls. -/
theorem indexOf?_zero_eq_some_iff (few : Few ds) :
    indexOf? draw 0 ds = some i ↔ ∃ d, ds[i]? = some d ∧ weightSum (ds.take i) ≤ draw.toNat ∧
      draw.toNat < weightSum (ds.take i) + d.weight.toNatClampNeg := by
  have fits : (0 : UInt64).toNat + weightSum ds < UInt64.size := by simpa using few.weightSum_lt
  simpa using indexOf?_eq_some_iff fits (Nat.zero_le draw.toNat)

/-- A number falls into one share at most. -/
theorem Holds.unique (holds : Holds ds r i d) (other : Holds ds r j e) : i = j := by
  obtain ⟨listed, -, begins, ends⟩ := holds
  obtain ⟨listed', -, begins', ends'⟩ := other
  -- of two shares the one that comes first ends before the other begins
  rcases Nat.lt_trichotomy i j with before | same | after
  · have apart := weightSum_take_add_le listed before
    omega
  · exact same
  · have apart := weightSum_take_add_le listed' after
    omega

/-! ### The place of a pick -/

/-- The source is asked for the sum of the positive weights. -/
theorem pick_of_weightSum_pos (few : Few ds) (some_weight : 0 < weightSum ds) :
    pick ds answer = ⟨some (total ds), indexOf? (answer (total ds)) 0 ds⟩ := by
  refine pick_of_total_pos (UInt64.lt_iff_toNat_lt.mpr ?_)
  rw [few.toNat_total]
  exact some_weight

theorem pick_of_weightSum_eq_zero (few : Few ds) (nothing : weightSum ds = 0) :
    pick ds answer = ⟨none, none⟩ := by
  have no_total : total ds = 0 := by
    rw [← UInt64.toNat_inj, few.toNat_total, nothing]
    rfl
  exact if_pos no_total

/-- A pick finds the place of the share into which the answer falls. -/
theorem index_pick_iff (few : Few ds) :
    (pick ds answer).index = some i ↔ ∃ d, ds[i]? = some d ∧
      weightSum (ds.take i) ≤ (answer (total ds)).toNat ∧
      (answer (total ds)).toNat < weightSum (ds.take i) + d.weight.toNatClampNeg := by
  rw [← indexOf?_zero_eq_some_iff few]
  constructor
  · exact indexOf?_of_pick
  · intro found
    obtain ⟨d, listed, begins, ends⟩ := (indexOf?_zero_eq_some_iff few).mp found
    have within := weightSum_take_add_le_weightSum listed
    rw [pick_of_weightSum_pos few (by omega)]
    exact found

/-! ### Destinations without a share -/

theorem share_of_not_isEligible (idle : ¬d.isEligible = true) : d.share = 0 := if_neg idle

/-- Destinations without a share add nothing. -/
theorem foldl_filter_isEligible :
    (ds.filter isEligible).foldl (fun sum d => sum + d.share) before =
      ds.foldl (fun sum d => sum + d.share) before := by
  induction ds generalizing before with
  | nil => rfl
  | cons d ds ih =>
    by_cases eligible : d.isEligible = true
    · rw [List.filter_cons_of_pos eligible, List.foldl_cons, List.foldl_cons, ih]
    · rw [List.filter_cons_of_neg eligible, List.foldl_cons, share_of_not_isEligible eligible,
        UInt64.add_zero, ih]

theorem total_filter_isEligible : total (ds.filter isEligible) = total ds := foldl_filter_isEligible

/-- Destinations without a share do not change into whose share a number falls. -/
theorem find_filter_isEligible :
    (indexOf? draw before (ds.filter isEligible)).bind ((ds.filter isEligible)[·]?) =
      (indexOf? draw before ds).bind (ds[·]?) := by
  induction ds generalizing before with
  | nil => rfl
  | cons d ds ih =>
    by_cases eligible : d.isEligible = true
    · rw [List.filter_cons_of_pos eligible, indexOf?, indexOf?]
      split
      · rfl
      · simpa [Option.bind_map, Function.comp_def] using ih
    · rw [List.filter_cons_of_neg eligible, ih]
      simp [indexOf?, eligible, share_of_not_isEligible eligible, Option.bind_map]

theorem asked_pick :
    (pick ds answer).asked = if total ds = 0 then none else some (total ds) := by
  simp only [pick]
  split <;> rfl

theorem destination?_pick :
    (pick ds answer).destination? ds =
      if total ds = 0 then none else (indexOf? (answer (total ds)) 0 ds).bind (ds[·]?) := by
  simp only [pick]
  split <;> rfl

/-- A pick from a list is one from the destinations of the list that have a share. -/
theorem pick_filter_isEligible (ds : List Destination) (answer : UInt64 → UInt64) :
    (pick (ds.filter isEligible) answer).asked = (pick ds answer).asked ∧
      (pick (ds.filter isEligible) answer).destination? (ds.filter isEligible) =
        (pick ds answer).destination? ds := by
  simp only [asked_pick, destination?_pick, total_filter_isEligible, find_filter_isEligible,
    and_self]

/-! ### Proportion -/

/-- The numbers that pick the destination at a place are those of its share. -/
theorem filter_index_pick (few : Few ds) (listed : ds[i]? = some d) :
    {r ∈ Finset.range (weightSum ds) | (pick ds fun _ => UInt64.ofNat r).index = some i} =
      Finset.Ico (weightSum (ds.take i)) (weightSum (ds.take i) + d.weight.toNatClampNeg) := by
  have within := weightSum_take_add_le_weightSum listed
  ext r
  rw [Finset.mem_filter, Finset.mem_range, Finset.mem_Ico, index_pick_iff few]
  simp only [listed, Option.some.injEq, exists_eq_left']
  constructor
  · rintro ⟨below, here⟩
    rwa [UInt64.toNat_ofNat_of_lt' (below.trans few.weightSum_lt)] at here
  · intro here
    have below : r < weightSum ds := by omega
    rw [UInt64.toNat_ofNat_of_lt' (below.trans few.weightSum_lt)]
    exact ⟨below, here⟩

/-- A number below the sum of the weights falls into the share of the destination that it picks. -/
theorem exists_holds (few : Few ds) (below : (answer (total ds)).toNat < weightSum ds) :
    ∃ i d, (pick ds answer).index = some i ∧ Holds ds (answer (total ds)).toNat i d := by
  have below' : answer (total ds) < total ds := by
    rwa [UInt64.lt_iff_toNat_lt, few.toNat_total]
  obtain ⟨i, found⟩ := exists_indexOf? below'
  have place : (pick ds answer).index = some i := by
    rw [pick_of_weightSum_pos few (by omega)]
    exact found
  obtain ⟨d, listed, begins, ends⟩ := (index_pick_iff few).mp place
  obtain ⟨e, listed', positive⟩ := eligible_of_indexOf? found
  cases listed.symm.trans listed'
  exact ⟨i, d, place, listed, positive, begins, ends⟩

/-- A pick from few destinations is proportional to their weights. -/
theorem proportional_of_few (few : Few ds) : Proportional ds where
  exact n := (few.take n).toNat_total
  unasked answer := by
    constructor
    · intro nothing
      by_contra some_weight
      rw [pick_of_weightSum_pos few (Nat.pos_of_ne_zero some_weight)] at nothing
      cases nothing
    · exact pick_of_weightSum_eq_zero few
  asked some_weight answer := by
    refine ⟨total ds, few.toNat_total, ?_, fun other same => ?_⟩
    · rw [pick_of_weightSum_pos few some_weight]
    · rw [pick_of_weightSum_pos few some_weight, pick_of_weightSum_pos few some_weight, same]
  placed answer below := by
    obtain ⟨i, d, place, holds⟩ := exists_holds few below
    refine ⟨i, d, place, ?_, holds, fun j e other => other.unique holds⟩
    rw [Pick.destination?, place, Option.bind_some, holds.listed]
  counted i d listed := by
    rw [filter_index_pick few listed, Nat.card_Ico, Nat.add_sub_cancel_left]
  eligible answer d picked := eligible_of_picked picked
  idle es same answer := by
    obtain ⟨asked, picked⟩ := pick_filter_isEligible ds answer
    obtain ⟨asked', picked'⟩ := pick_filter_isEligible es answer
    have same : es.filter isEligible = ds.filter isEligible := same
    rw [same] at asked' picked'
    exact ⟨asked'.symm.trans asked, picked'.symm.trans picked⟩

/-- Destinations of which two have a share, of 3 and of the greatest weight there is. The least
weight there is and a weight of zero give none. -/
def sampleDestinations : List Destination :=
  [⟨"sip:never", Int32.minValue⟩, ⟨"sip:front", 3⟩, ⟨"sip:closed", 0⟩, ⟨"sip:hall", Int32.maxValue⟩]

theorem proportional_of_sampleDestinations :
    Few sampleDestinations ∧ Proportional sampleDestinations :=
  have few : Few sampleDestinations := by
    change 4 < 8589934592
    decide
  ⟨few, proportional_of_few few⟩

/-- The last number of one share and the first of the next. -/
example :
    (pick sampleDestinations fun _ => 2).destination? sampleDestinations =
        some ⟨"sip:front", 3⟩ ∧
      (pick sampleDestinations fun _ => 3).destination? sampleDestinations =
        some ⟨"sip:hall", Int32.maxValue⟩ := by
  decide

end CallExchange.Destination
