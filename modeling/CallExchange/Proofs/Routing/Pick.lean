import CallExchange.Routing.Pick

/-!
# What a pick comes to

Whatever the random source answers, a destination that is picked has a positive weight. A source
that answers below the bound it is asked for always picks one if there is one, provided that the
shares add up without wrapping.

## Main definitions

* `Destination.shares` — the exact sum of the shares
* `Destination.Few` — so few destinations that the sum of their shares does not wrap
* `AnswersBelow` — a source that keeps to the bounds it is asked for

## Main results

* `eligible_of_picked` — a picked destination is one of the list, with a positive weight
* `toNat_total` — the sum that a pick computes is exact
* `exists_picked_iff` — something is picked exactly when something has a positive weight
-/

namespace CallExchange

/-- The source answers below every bound that admits an answer. -/
def AnswersBelow (answer : UInt64 → UInt64) : Prop := ∀ upper, 0 < upper → answer upper < upper

namespace Destination

variable {d : Destination} {ds : List Destination} {answer : UInt64 → UInt64}
  {draw before : UInt64} {i : Nat}

/-- The exact sum of the shares. -/
def shares : List Destination → Nat
  | [] => 0
  | d :: ds => d.share.toNat + shares ds

/-- Fewer than 2³³ destinations. Each share is below 2³¹. -/
def Few (ds : List Destination) : Prop := ds.length < 8589934592

/-! ### Shares -/

theorem isEligible_iff : d.isEligible = true ↔ 0 < d.weight := by simp [isEligible]

theorem toNat_share : d.share.toNat = d.weight.toInt.toNat := by
  have high := d.weight.toInt_lt
  unfold share
  by_cases eligible : d.isEligible = true
  · rw [if_pos eligible, UInt64.toNat_ofNat_of_lt' (by simp only [UInt64.size]; omega)]
  · have low : d.weight.toInt ≤ 0 := by
      rw [isEligible_iff, Int32.lt_iff_toInt_lt] at eligible
      simpa using eligible
    rw [if_neg eligible, Int.toNat_eq_zero.mpr low]
    rfl

theorem share_pos_iff : 0 < d.share.toNat ↔ 0 < d.weight := by
  rw [toNat_share, Int32.lt_iff_toInt_lt, Int32.toInt_zero]
  omega

theorem share_le : d.share.toNat ≤ 2147483647 := by
  have high := d.weight.toInt_lt
  rw [toNat_share]
  omega

@[simp] theorem shares_nil : shares [] = 0 := rfl

@[simp] theorem shares_cons : shares (d :: ds) = d.share.toNat + shares ds := rfl

theorem shares_pos_iff : 0 < shares ds ↔ ∃ d ∈ ds, 0 < d.weight := by
  induction ds with
  | nil => simp
  | cons d ds ih =>
    have here : 0 < d.share.toNat ↔ 0 < d.weight := share_pos_iff
    simp only [shares_cons, List.mem_cons, exists_eq_or_imp, ← ih, ← here]
    omega

theorem shares_le : shares ds ≤ ds.length * 2147483647 := by
  induction ds with
  | nil => simp
  | cons d ds ih =>
    have first : d.share.toNat ≤ 2147483647 := share_le
    rw [shares_cons, List.length_cons]
    omega

/-- The shares of few destinations add up without wrapping. -/
theorem Few.shares_lt (few : Few ds) : shares ds < UInt64.size := by
  have bound : shares ds ≤ ds.length * 2147483647 := shares_le
  unfold Few at few
  simp only [UInt64.size]
  omega

/-- A share is added exactly as long as the sum does not wrap. -/
theorem toNat_add_share (fits : before.toNat + d.share.toNat < UInt64.size) :
    (before + d.share).toNat = before.toNat + d.share.toNat := by
  rw [UInt64.toNat_add]
  exact Nat.mod_eq_of_lt fits

/-- Adding up the shares from a number on is exact as long as it does not wrap. -/
theorem toNat_foldl (fits : before.toNat + shares ds < UInt64.size) :
    (ds.foldl (fun sum d => sum + d.share) before).toNat = before.toNat + shares ds := by
  -- the sum so far is the number that the rest starts from
  induction ds generalizing before with
  | nil => rfl
  | cons d ds ih =>
    rw [shares_cons] at fits
    have exact : (before + d.share).toNat = before.toNat + d.share.toNat :=
      toNat_add_share (by omega)
    rw [List.foldl_cons, ih (by omega), exact, shares_cons, Nat.add_assoc]

theorem toNat_total (few : Few ds) : (total ds).toNat = shares ds := by
  have fits : (0 : UInt64).toNat + shares ds < UInt64.size := by simpa using few.shares_lt
  simpa [total] using toNat_foldl fits

/-! ### The place of a number -/

/-- The place that is found is that of a destination with a positive weight. -/
theorem eligible_of_indexOf? (found : indexOf? draw before ds = some i) :
    ∃ d, ds[i]? = some d ∧ 0 < d.weight := by
  induction ds generalizing before i with
  | nil => cases found
  | cons d ds ih =>
    unfold indexOf? at found
    split at found
    · next here =>
      cases found
      exact ⟨d, rfl, isEligible_iff.mp (Bool.and_eq_true_iff.mp here).1⟩
    · obtain ⟨j, later, rfl⟩ := Option.map_eq_some_iff.mp found
      exact ih later

/-- A number that falls into no share is not below the sum of the shares, however that wraps; unless
there are no shares. -/
theorem unplaced_of_indexOf?_eq_none (missed : indexOf? draw before ds = none) :
    ds.foldl (fun sum d => sum + d.share) before = before ∨
      ¬draw < ds.foldl (fun sum d => sum + d.share) before := by
  induction ds generalizing before with
  | nil => exact .inl rfl
  | cons d ds ih =>
    unfold indexOf? at missed
    split at missed
    · cases missed
    · next elsewhere =>
      rw [List.foldl_cons]
      rcases ih (Option.map_eq_none_iff.mp missed) with still | beyond
      · rw [still]
        by_cases eligible : d.isEligible = true
        · refine .inr fun below => elsewhere ?_
          rw [eligible, Bool.true_and, decide_eq_true below]
        · refine .inl ?_
          rw [share, if_neg eligible, UInt64.add_zero]
      · exact .inr beyond

/-- A number below the sum of the shares falls into one of them. -/
theorem exists_indexOf? (below : draw < total ds) : ∃ i, indexOf? draw 0 ds = some i := by
  cases place : indexOf? draw 0 ds with
  | some i => exact ⟨i, rfl⟩
  | none =>
    rcases unplaced_of_indexOf?_eq_none place with nothing | beyond
    · have none_below : draw < 0 := nothing ▸ below
      exact absurd none_below UInt64.not_lt_zero
    · exact absurd below beyond

/-! ### Picks -/

theorem pick_of_total_pos (some_total : 0 < total ds) :
    pick ds answer = ⟨some (total ds), indexOf? (answer (total ds)) 0 ds⟩ :=
  if_neg (UInt64.pos_iff_ne_zero.mp some_total)

theorem indexOf?_of_pick (place : (pick ds answer).index = some i) :
    indexOf? (answer (total ds)) 0 ds = some i := by
  by_cases some_total : 0 < total ds
  · rwa [pick_of_total_pos some_total] at place
  · rw [pick, if_pos (by simpa [UInt64.pos_iff_ne_zero] using some_total)] at place
    cases place

/-- Whatever is picked is one of the destinations and has a positive weight. -/
theorem eligible_of_picked (picked : (pick ds answer).destination? ds = some d) :
    d ∈ ds ∧ 0 < d.weight := by
  obtain ⟨i, place, here⟩ := Option.bind_eq_some_iff.mp picked
  refine ⟨List.mem_of_getElem? here, ?_⟩
  obtain ⟨e, there, eligible⟩ := eligible_of_indexOf? (indexOf?_of_pick place)
  cases here.symm.trans there
  exact eligible

/-- A source that keeps to its bounds picks a destination whenever it is asked. -/
theorem exists_picked_of_total_pos (honest : AnswersBelow answer) (some_total : 0 < total ds) :
    ∃ d, (pick ds answer).destination? ds = some d := by
  obtain ⟨i, place⟩ := exists_indexOf? (honest _ some_total)
  obtain ⟨d, here, -⟩ := eligible_of_indexOf? place
  refine ⟨d, ?_⟩
  simp only [pick_of_total_pos some_total, Pick.destination?, place, Option.bind_some, here]

/-- A source that keeps to its bounds picks a destination as soon as one has a positive weight. -/
theorem exists_picked_iff (few : Few ds) (honest : AnswersBelow answer) :
    (∃ d, (pick ds answer).destination? ds = some d) ↔ ∃ d ∈ ds, 0 < d.weight := by
  constructor
  · rintro ⟨d, picked⟩
    exact ⟨d, eligible_of_picked picked⟩
  · intro eligible
    have sum := toNat_total few
    have some_share : 0 < shares ds := shares_pos_iff.mpr eligible
    have some_total : 0 < total ds := by
      rw [UInt64.lt_iff_toNat_lt, sum]
      exact some_share
    exact exists_picked_of_total_pos honest some_total

end Destination

end CallExchange
