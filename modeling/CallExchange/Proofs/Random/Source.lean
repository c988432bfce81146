import CallExchange.Proofs.Routing.Pick

/-!
# Sources keep to their bounds

Whatever a source is made of, it answers a question with a number below the bound of the question, if
there is one. A source does not know how its questions are grouped: it goes on where it has stopped.

## Main results

* `Source.answersBelow` — every answer is below its bound
* `Source.after_append` — questions that are asked in two goes
-/

namespace CallExchange.Random

variable {upper a : UInt64}

/-- The answer that an acceptable word gives is below the bound, being the high half of a product
with it. -/
theorem lt_of_accept? {v : UInt64} (some_bound : 0 < upper) (accepted : accept? upper v = some a) :
    a < upper := by
  have high : v.toNat * upper.toNat / UInt64.size < upper.toNat :=
    Nat.div_lt_of_lt_mul
      (Nat.mul_lt_mul_of_pos_right v.toNat_lt_size (UInt64.lt_iff_toNat_lt.mp some_bound))
  obtain ⟨-, answer⟩ := Option.ite_none_right_eq_some.mp accepted
  cases answer
  rw [UInt64.lt_iff_toNat_lt, UInt64.toNat_ofNat_of_lt' (Nat.lt_trans high upper.toNat_lt_size)]
  exact high

theorem lt_of_firstAnswer {words : Nat → UInt64} {fuel place next : Nat} (some_bound : 0 < upper)
    (found : firstAnswer words upper fuel place = some (a, next)) : a < upper := by
  -- the search goes on from the next place with one word less
  induction fuel generalizing place with
  | zero => cases found
  | succ fuel ih =>
    unfold firstAnswer at found
    split at found
    · next accepted =>
      cases found
      exact lt_of_accept? some_bound accepted
    · exact ih found

/-- Every source keeps to the bounds that it is asked for. -/
theorem Source.answersBelow (source : Source) : AnswersBelow source.answer := by
  intro upper some_bound
  have bounded : upper ≠ 0 := UInt64.pos_iff_ne_zero.mp some_bound
  unfold answer
  cases source with
  | scripted answers place =>
    simp only [below, Option.getD_some]
    split
    · exact UInt64.mod_lt _ some_bound
    · exact some_bound
  | seeded seed place =>
    simp only [below, if_neg bounded]
    split
    · next found => exact lt_of_firstAnswer some_bound found
    · exact some_bound
  | unseeded =>
    simp only [below, if_neg bounded]
    exact some_bound

/-- A source goes on where it has stopped. -/
theorem Source.after_append (source : Source) (before more : List UInt64) :
    source.after (before ++ more) = (source.after before).after more := List.foldl_append

end CallExchange.Random
