import CallExchange.Proofs.Random.Source
import Mathlib.Algebra.Order.BigOperators.Group.Finset
import Mathlib.Algebra.Order.Floor.Div
import Mathlib.Order.Interval.Finset.Nat

/-!
# Every answer has as many words

A word gives an answer below a bound if its product with the bound falls into the window of that
answer: the window begins at the answer, moved up by a word, and is as long as the bound, moved to
the top of a word. Being a multiple of the bound, that length holds the same number of products for
every answer. So a source whose words are all equally likely gives all answers equally often.

## Main definitions

* `Random.tickets` — how many words there are for each answer
* `Random.words` — the words that give an answer with a property

## Main results

* `accept?_eq_some_iff` — the window of an answer
* `card_words` — how many words give an answer with a property
* `firstAnswer_of_rejected` — words that are not acceptable are passed over
-/

namespace CallExchange.Random

variable {upper a v : UInt64} {w : Nat}

/-! ### The window of an answer -/

/-- How many words there are for each answer below a bound. -/
def tickets (upper : UInt64) : Nat := 2 ^ leadingZeros upper

theorem tickets_pos : 0 < tickets upper := Nat.two_pow_pos _

theorem leadingZeros_of_pos (some_bound : 0 < upper) :
    leadingZeros upper = 63 - upper.toNat.log2 :=
  if_neg (UInt64.pos_iff_ne_zero.mp some_bound)

/-- The bound, moved to the top of a word, is at least half of what a word can hold, and less than
that. -/
theorem tickets_bounds (some_bound : 0 < upper) :
    UInt64.size ≤ 2 * (upper.toNat * tickets upper) ∧
      upper.toNat * tickets upper < UInt64.size := by
  have positive : upper.toNat ≠ 0 := Nat.ne_of_gt (UInt64.lt_iff_toNat_lt.mp some_bound)
  have low : 2 ^ upper.toNat.log2 ≤ upper.toNat := Nat.log2_self_le positive
  have high : upper.toNat < 2 ^ (upper.toNat.log2 + 1) := Nat.lt_log2_self
  have short : upper.toNat.log2 < 64 := (Nat.log2_lt positive).mpr upper.toNat_lt
  have whole : upper.toNat.log2 + leadingZeros upper = 63 := by
    rw [leadingZeros_of_pos some_bound]
    omega
  constructor
  · calc UInt64.size = 2 * (2 ^ upper.toNat.log2 * tickets upper) := by
          rw [tickets, ← Nat.pow_add, whole]
      _ ≤ 2 * (upper.toNat * tickets upper) :=
          Nat.mul_le_mul_left 2 (Nat.mul_le_mul_right _ low)
  · calc upper.toNat * tickets upper < 2 ^ (upper.toNat.log2 + 1) * tickets upper :=
          Nat.mul_lt_mul_of_pos_right high tickets_pos
      _ = UInt64.size := by
          rw [tickets, ← Nat.pow_add, Nat.add_right_comm, whole]

/-- The greatest acceptable low half is one less than the bound, moved to the top of a word. -/
theorem toNat_zone (some_bound : 0 < upper) :
    (zone upper).toNat + 1 = upper.toNat * tickets upper := by
  have fits := (tickets_bounds some_bound).2
  have positive : 0 < upper.toNat * tickets upper :=
    Nat.mul_pos (UInt64.lt_iff_toNat_lt.mp some_bound) tickets_pos
  have short : leadingZeros upper < 64 := by
    rw [leadingZeros_of_pos some_bound]
    omega
  have top : (upper <<< UInt64.ofNat (leadingZeros upper)).toNat =
      upper.toNat * tickets upper := by
    rw [UInt64.toNat_shiftLeft, UInt64.toNat_ofNat_of_lt' (Nat.lt_trans short (by decide)),
      Nat.mod_eq_of_lt short, Nat.shiftLeft_eq]
    exact Nat.mod_eq_of_lt fits
  have low : (1 : UInt64) ≤ upper <<< UInt64.ofNat (leadingZeros upper) := by
    rw [UInt64.le_iff_toNat_le, top, UInt64.toNat_one]
    exact positive
  rw [zone, UInt64.toNat_sub_of_le _ _ low, top, UInt64.toNat_one, Nat.sub_add_cancel positive]

/-- A word gives an answer if and only if its product with the bound falls into the window of the
answer. -/
theorem accept?_eq_some_iff (some_bound : 0 < upper) :
    accept? upper v = some a ↔ a.toNat * UInt64.size ≤ v.toNat * upper.toNat ∧
      v.toNat * upper.toNat < a.toNat * UInt64.size + upper.toNat * tickets upper := by
  have greatest := toNat_zone some_bound
  have fits := (tickets_bounds some_bound).2
  have parts := Nat.div_add_mod (v.toNat * upper.toNat) UInt64.size
  have high : v.toNat * upper.toNat / UInt64.size < UInt64.size :=
    Nat.div_lt_of_lt_mul (Nat.mul_lt_mul'' v.toNat_lt_size upper.toNat_lt_size)
  rw [accept?, Option.ite_none_right_eq_some, Option.some.injEq]
  -- the answer is the quotient of the product by the number of words, the low half the remainder
  constructor
  · rintro ⟨low, rfl⟩
    rw [UInt64.toNat_ofNat_of_lt' high, Nat.mul_comm _ UInt64.size]
    omega
  · rintro ⟨begins, ends⟩
    have answer : v.toNat * upper.toNat / UInt64.size = a.toNat :=
      Nat.div_eq_of_lt_le begins (by rw [Nat.add_one_mul]; omega)
    refine ⟨?_, ?_⟩
    · rw [answer, Nat.mul_comm] at parts
      omega
    · rw [answer, UInt64.ofNat_toNat]

/-! ### Counting words -/

/-- The words that give an answer with a property. -/
def words (upper : UInt64) (P : UInt64 → Prop) [DecidablePred P] : Finset Nat :=
  {w ∈ Finset.range UInt64.size | (accept? upper (.ofNat w)).any fun a => P a}

theorem mem_words {P : UInt64 → Prop} [DecidablePred P] :
    w ∈ words upper P ↔
      w < UInt64.size ∧ ∃ a, accept? upper (.ofNat w) = some a ∧ P a := by
  rw [words, Finset.mem_filter, Finset.mem_range, Option.any_eq_true]
  simp only [decide_eq_true_eq]

/-- The multiples of a number below the end of a window that is itself a multiple long. -/
theorem mul_lt_add_mul_iff {begin count step : Nat} (positive : 0 < step) :
    w * step < begin + step * count ↔ w < begin ⌈/⌉ step + count := by
  rcases Nat.lt_or_ge w count with few | many
  · have within : w * step < step * count := by
      rw [Nat.mul_comm step]
      exact Nat.mul_lt_mul_of_pos_right few positive
    exact iff_of_true (Nat.lt_add_left begin within) (Nat.lt_add_left _ few)
  · obtain ⟨k, rfl⟩ := Nat.exists_eq_add_of_le many
    have inside : step * k < begin ↔ k < begin ⌈/⌉ step := by
      rw [← not_le, ← not_le, ceilDiv_le_iff_le_mul positive]
    rw [Nat.add_comm count, Nat.add_mul, Nat.mul_comm count, Nat.add_lt_add_iff_right,
      Nat.add_lt_add_iff_right, Nat.mul_comm k, inside]

/-- The words of an answer follow each other. -/
theorem words_of_answer (below : a < upper) :
    words upper (· = a) =
      Finset.Ico (a.toNat * UInt64.size ⌈/⌉ upper.toNat)
        (a.toNat * UInt64.size ⌈/⌉ upper.toNat + tickets upper) := by
  have some_bound : 0 < upper := UInt64.lt_of_le_of_lt UInt64.zero_le below
  have positive : 0 < upper.toNat := UInt64.lt_iff_toNat_lt.mp some_bound
  ext w
  rw [mem_words, Finset.mem_Ico, ceilDiv_le_iff_le_mul positive, ← mul_lt_add_mul_iff positive,
    Nat.mul_comm upper.toNat w]
  simp only [exists_eq_right, accept?_eq_some_iff some_bound]
  constructor
  · rintro ⟨fits, window⟩
    rwa [UInt64.toNat_ofNat_of_lt' fits] at window
  · intro window
    -- the window ends before the product of the bound with the word after the last one
    have fits : w < UInt64.size := by
      have short := (tickets_bounds some_bound).2
      have last : (a.toNat + 1) * UInt64.size ≤ upper.toNat * UInt64.size :=
        Nat.mul_le_mul_right _ (UInt64.lt_iff_toNat_lt.mp below)
      refine Nat.lt_of_mul_lt_mul_right (a := upper.toNat) ?_
      rw [Nat.mul_comm UInt64.size]
      rw [Nat.add_one_mul] at last
      omega
    rw [UInt64.toNat_ofNat_of_lt' fits]
    exact ⟨fits, window⟩

theorem card_words_of_answer (below : a < upper) : (words upper (· = a)).card = tickets upper := by
  rw [words_of_answer below, Nat.card_Ico, Nat.add_sub_cancel_left]

/-- As many words give an answer with a property as there are tickets for the answers that have
it. -/
theorem card_words (some_bound : 0 < upper) (P : UInt64 → Prop) [DecidablePred P] :
    (words upper P).card =
      {r ∈ Finset.range upper.toNat | P (.ofNat r)}.card * tickets upper := by
  -- the words are counted answer by answer
  have answered : ∀ w ∈ words upper P, ((accept? upper (.ofNat w)).getD 0).toNat ∈
      {r ∈ Finset.range upper.toNat | P (.ofNat r)} := by
    intro w mem
    obtain ⟨-, a, accepted, property⟩ := mem_words.mp mem
    rw [accepted, Option.getD_some, Finset.mem_filter, Finset.mem_range, UInt64.ofNat_toNat]
    exact ⟨UInt64.lt_iff_toNat_lt.mp (lt_of_accept? some_bound accepted), property⟩
  rw [Finset.card_eq_sum_card_fiberwise answered]
  refine Finset.sum_const_nat fun r mem => ?_
  obtain ⟨below, property⟩ := Finset.mem_filter.mp mem
  have fits : r < UInt64.size := (Finset.mem_range.mp below).trans upper.toNat_lt_size
  have same : {w ∈ words upper P | ((accept? upper (.ofNat w)).getD 0).toNat = r} =
      words upper (· = .ofNat r) := by
    ext w
    rw [Finset.mem_filter, mem_words, mem_words]
    constructor
    · rintro ⟨⟨word, a, accepted, -⟩, answer⟩
      rw [accepted, Option.getD_some] at answer
      exact ⟨word, a, accepted, by rw [← answer, UInt64.ofNat_toNat]⟩
    · rintro ⟨word, _, accepted, rfl⟩
      refine ⟨⟨word, _, accepted, property⟩, ?_⟩
      rw [accepted, Option.getD_some, UInt64.toNat_ofNat_of_lt' fits]
  rw [same, card_words_of_answer]
  rw [UInt64.lt_iff_toNat_lt, UInt64.toNat_ofNat_of_lt' fits]
  exact Finset.mem_range.mp below

/-! ### Words that are passed over -/

/-- A search ends at the first acceptable word, if it is among those that are tried. -/
theorem firstAnswer_of_rejected {word : Nat → UInt64} {fuel place n : Nat} (within : n < fuel)
    (rejected : ∀ k < n, accept? upper (word (place + k)) = none)
    (accepted : accept? upper (word (place + n)) = some a) :
    firstAnswer word upper fuel place = some (a, place + n + 1) := by
  -- the search goes on from the next place with one rejection less before it
  induction n generalizing place fuel with
  | zero =>
    obtain ⟨fuel, rfl⟩ := Nat.exists_eq_add_one_of_ne_zero (Nat.ne_zero_of_lt within)
    rw [Nat.add_zero] at accepted
    rw [firstAnswer, accepted]
  | succ n ih =>
    obtain ⟨fuel, rfl⟩ := Nat.exists_eq_add_one_of_ne_zero (Nat.ne_zero_of_lt within)
    have first : accept? upper (word place) = none := rejected 0 (Nat.zero_lt_succ n)
    have next (k : Nat) : place + 1 + k = place + (k + 1) := by omega
    have later : firstAnswer word upper fuel (place + 1) = some (a, place + 1 + n + 1) := by
      refine ih (Nat.lt_of_succ_lt_succ within) (fun k before => ?_) ?_
      · rw [next]
        exact rejected (k + 1) (Nat.succ_lt_succ before)
      · rw [next]
        exact accepted
    rw [firstAnswer, first]
    simp only [later, next]

namespace Source

variable {seed : UInt64} {place n : Nat}

/-- The word at a place of the keystream of a seed. -/
def word (seed : UInt64) (place : Nat) : UInt64 := ChaCha.doubleWord (ChaCha.keyOfSeed seed) place

/-- A seeded source answers with its first acceptable word, and goes on behind it. -/
theorem below_of_rejected (some_bound : 0 < upper) (within : n < patience)
    (rejected : ∀ k < n, accept? upper (word seed (place + k)) = none)
    (accepted : accept? upper (word seed (place + n)) = some a) :
    (seeded seed place).below upper = (some a, .seeded seed (place + n + 1)) := by
  have found : firstAnswer (ChaCha.doubleWord (ChaCha.keyOfSeed seed)) upper patience place =
      some (a, place + n + 1) := firstAnswer_of_rejected within rejected accepted
  rw [below, if_neg (UInt64.pos_iff_ne_zero.mp some_bound), found]

/-- What a seeded source answers is below the bound. -/
theorem lt_of_below_seeded (some_bound : 0 < upper)
    (answered : ((seeded seed place).below upper).1 = some a) : a < upper := by
  rw [below, if_neg (UInt64.pos_iff_ne_zero.mp some_bound)] at answered
  split at answered
  · next found =>
    cases answered
    exact lt_of_firstAnswer some_bound found
  · cases answered

end Source

end CallExchange.Random
