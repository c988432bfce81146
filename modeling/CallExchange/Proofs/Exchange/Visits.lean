import CallExchange.Proofs.Exchange.Questions
import CallExchange.Proofs.Random.Source

/-!
# Calls that share a random source

The calls that share a random source only disturb one another by choosing a destination. Where some
calls of a sequence do not choose, be it that an override decides them, that they are rejected or
that their routing fails, the others go the same way without them.

## Main definitions

* `Visit` — a request of such a sequence, in its surroundings
* `Visit.course` — what comes of the sequence
* `Exchange.replies` — what an exchange answers to the requests of a sequence

## Main results

* `Visit.course_filter_of_idle` — a sequence without some requests that do not choose
* `Exchange.replies_eq` — the requests to an exchange are such a sequence
* `Exchange.replies_filter` — what an exchange answers without some requests that do not choose
* `Exchange.frugal_and_undisturbed` — what any request asks, and whom it disturbs
-/

namespace CallExchange

/-! ### Sequences of requests -/

/-- A request in its surroundings, one of a sequence that some are taken out of. -/
structure Visit where
  surroundings : Surroundings
  request : RouteRequest
  /-- The request is not taken out. -/
  stays : Bool

namespace Visit

variable {source : List UInt64 → UInt64 → UInt64} {before : List UInt64} {visits : List Visit}

/-- What comes of the request where the random source would give some answer. -/
def handled (v : Visit) (answer : UInt64 → UInt64) : Routed Decision :=
  { v.surroundings with answer }.handle v.request

/-- What comes of requests that are made one after the other and share a random source. The source
answers a question by the questions that it has been asked before. -/
def course (source : List UInt64 → UInt64 → UInt64) (before : List UInt64) :
    List Visit → List (Visit × Routed Decision)
  | [] => []
  | v :: rest =>
    let r := v.handled (source before)
    (v, r) :: course source (before ++ r.trace.draws) rest

theorem course_cons {v : Visit} :
    course source before (v :: visits) =
      (v, v.handled (source before)) ::
        course source (before ++ (v.handled (source before)).trace.draws) visits := rfl

/-- Something comes of every request, in order. -/
theorem map_fst_course : (course source before visits).map (·.1) = visits := by
  induction visits generalizing before with
  | nil => rfl
  | cons v rest ih => rw [course_cons, List.map_cons, ih]

/-- Every request is handled with the source as it is by then. -/
theorem exists_handled_of_mem {p : Visit × Routed Decision}
    (mem : p ∈ course source before visits) : ∃ asked, p.2 = p.1.handled (source asked) := by
  induction visits generalizing before with
  | nil => cases mem
  | cons v rest ih =>
    rcases List.mem_cons.mp mem with rfl | later
    · exact ⟨before, rfl⟩
    · exact ih later

/-- With a source that keeps to its bounds, the requests that choose are those that ask it. -/
theorem chosen_iff_of_mem (honest : ∀ before, AnswersBelow (source before))
    {p : Visit × Routed Decision} (mem : p ∈ course source before visits) :
    p.2.Chosen ↔ p.2.trace.draws ≠ [] := by
  obtain ⟨asked, handled⟩ := exists_handled_of_mem mem
  rw [handled]
  exact Surroundings.chosen_handle_iff (honest asked)

/-- Requests that do not ask the source can be taken out: the others find it as they find it with
them. -/
theorem course_filter (undrawn : ∀ p ∈ course source before visits, p.1.stays = false →
    p.2.trace.draws = []) :
    course source before (visits.filter stays) =
      (course source before visits).filter fun p => p.1.stays := by
  -- the questions asked so far are the same with and without the requests that are taken out
  induction visits generalizing before with
  | nil => rfl
  | cons v rest ih =>
    rw [course_cons] at undrawn ⊢
    have later := ih fun p mem => undrawn p (List.mem_cons_of_mem _ mem)
    cases stays : v.stays with
    | true => simp only [List.filter_cons, stays, if_true, course_cons, later]
    | false =>
      have still : (v.handled (source before)).trace.draws = [] :=
        undrawn _ List.mem_cons_self stays
      rw [still, List.append_nil] at later
      simp only [List.filter_cons, stays, Bool.false_eq_true, if_false, still, List.append_nil,
        later]

/-- With a source that keeps to its bounds, requests that do not choose can be taken out. -/
theorem course_filter_of_idle (honest : ∀ before, AnswersBelow (source before))
    (idle : ∀ p ∈ course source before visits, p.1.stays = false → ¬p.2.Chosen) :
    course source before (visits.filter stays) =
      (course source before visits).filter fun p => p.1.stays := by
  apply course_filter
  intro p mem out
  by_contra drawn
  exact idle p mem out ((chosen_iff_of_mem honest mem).mpr drawn)

end Visit

namespace Exchange

/-- After a request an exchange is connected to its routing as it was before it, but for the
source. -/
theorem surroundings_finish (x : Exchange) (r : Routed Decision) :
    (x.finish r).2.surroundings =
      { x.surroundings with answer := (x.source.after r.trace.draws).answer } := by
  have lookup (trail : AuditTrail) (source : Random.Source) :
      ({ x with trail, source } : Exchange).lookup = x.lookup := by
    funext supply
    cases supply <;> rfl
  have reader (trail : AuditTrail) (source : Random.Source) :
      ({ x with trail, source } : Exchange).reader = x.reader := by
    funext supply
    cases supply <;> rfl
  rw [next_finish_eq]
  simp only [surroundings, lookup, reader]

/-- What an exchange answers to requests that are made one after the other. -/
def replies (x : Exchange) (visits : List Visit) : List Answer :=
  (x.run (visits.map fun v => v.request.step)).map Result.answer

theorem replies_cons {x : Exchange} {v : Visit} {visits : List Visit} :
    x.replies (v :: visits) =
      v.request.reply (x.surroundings.handle v.request) ::
        (x.finish (x.surroundings.handle v.request)).2.replies visits := by
  rw [replies, List.map_cons, run, List.map_cons, step_request]
  rfl

/-- The random source of an exchange, by the questions that it has been asked since. -/
def answering (x : Exchange) (before : List UInt64) : UInt64 → UInt64 :=
  (x.source.after before).answer

/-- From any request on, the replies of an exchange are those of a sequence that shares its
source. -/
theorem replies_from {x y : Exchange} {before : List UInt64} {visits : List Visit}
    (asked : y.source = x.source.after before)
    (alike : y.surroundings = { x.surroundings with answer := x.answering before })
    (own : ∀ v ∈ visits, v.surroundings = x.surroundings) :
    y.replies visits =
      (Visit.course x.answering before visits).map fun p => p.1.request.reply p.2 := by
  -- what has been asked so far grows by what each request draws
  induction visits generalizing y before with
  | nil => rfl
  | cons v visits ih =>
    have handled : y.surroundings.handle v.request = v.handled (x.answering before) := by
      rw [alike, Visit.handled, own v List.mem_cons_self]
    have asked' : (y.finish (y.surroundings.handle v.request)).2.source =
        x.source.after (before ++ (y.surroundings.handle v.request).trace.draws) := by
      rw [next_finish_eq, Random.Source.after_append, asked]
    have alike' : (y.finish (y.surroundings.handle v.request)).2.surroundings =
        { x.surroundings with
          answer := x.answering (before ++ (y.surroundings.handle v.request).trace.draws) } := by
      rw [surroundings_finish, answering, Random.Source.after_append, asked, alike]
    have later := ih asked' alike' fun w mem => own w (List.mem_cons_of_mem v mem)
    rw [replies_cons, Visit.course_cons, List.map_cons, later, handled]

/-- The replies of an exchange to requests are those of a sequence that shares its source. -/
theorem replies_eq {x : Exchange} {visits : List Visit}
    (own : ∀ v ∈ visits, v.surroundings = x.surroundings) :
    x.replies visits =
      (Visit.course x.answering [] visits).map fun p => p.1.request.reply p.2 :=
  replies_from rfl rfl own

/-- Without some requests that do not choose, an exchange replies to the others as it does with
them. -/
theorem replies_filter {x : Exchange} {visits : List Visit}
    (own : ∀ v ∈ visits, v.surroundings = x.surroundings)
    (idle : ∀ p ∈ Visit.course x.answering [] visits, p.1.stays = false → ¬p.2.Chosen) :
    x.replies (visits.filter Visit.stays) =
      ((visits.zip (x.replies visits)).filter fun p => p.1.stays).map (·.2) := by
  have honest : ∀ before, AnswersBelow (x.answering before) :=
    fun before => (x.source.after before).answersBelow
  have staying : ∀ v ∈ visits.filter Visit.stays, v.surroundings = x.surroundings :=
    fun v mem => own v (List.mem_of_mem_filter mem)
  -- each request is put beside the reply to it
  have paired : visits.zip (x.replies visits) =
      (Visit.course x.answering [] visits).map fun p => (p.1, p.1.request.reply p.2) := by
    rw [replies_eq own, ← List.zip_map', Visit.map_fst_course]
  rw [replies_eq staying, Visit.course_filter_of_idle honest idle, paired, List.filter_map,
    List.map_map]
  rfl

/-! ### What routing disturbs -/

/-- Any request asks no more than it needs of an exchange, in any surroundings. In a sequence of
requests that share a random source, exactly those that choose have asked it, and where some that do
not choose are taken out, or put in, the others go the same way. The requests to an exchange are
such a sequence, so that it replies to the others as it would have. -/
theorem frugal_and_undisturbed :
    (∀ (x : Exchange) (s : Surroundings) (q : RouteRequest), x.Frugal s q) ∧
      (∀ source : List UInt64 → UInt64 → UInt64, (∀ before, AnswersBelow (source before)) →
        ∀ (before : List UInt64) (visits : List Visit),
          (∀ p ∈ Visit.course source before visits, p.2.Chosen ↔ p.2.trace.draws ≠ []) ∧
            ((∀ p ∈ Visit.course source before visits, p.1.stays = false → ¬p.2.Chosen) →
              Visit.course source before (visits.filter Visit.stays) =
                (Visit.course source before visits).filter fun p => p.1.stays)) ∧
      ∀ (x : Exchange) (visits : List Visit), (∀ v ∈ visits, v.surroundings = x.surroundings) →
        x.replies visits =
            (Visit.course x.answering [] visits).map (fun p => p.1.request.reply p.2) ∧
          ((∀ p ∈ Visit.course x.answering [] visits, p.1.stays = false → ¬p.2.Chosen) →
            x.replies (visits.filter Visit.stays) =
              ((visits.zip (x.replies visits)).filter fun p => p.1.stays).map (·.2)) := by
  refine ⟨frugal, fun source honest before visits => ⟨?_, ?_⟩, fun x visits own => ⟨?_, ?_⟩⟩
  · intro p mem
    exact Visit.chosen_iff_of_mem honest mem
  · intro idle
    exact Visit.course_filter_of_idle honest idle
  · exact replies_eq own
  · intro idle
    exact replies_filter own idle

/-- A source that counts its questions. -/
def counting (before : List UInt64) (upper : UInt64) : UInt64 := UInt64.ofNat before.length % upper

/-- Between two calls that choose a destination, a provider's call whose resolver fails. -/
def sampleVisits (s : Surroundings) : List Visit :=
  [⟨s, .route sampleCall, true⟩,
    ⟨s, .inbound { Resolver.nothing with campaign := fun _ => .error "down" } sampleCall.inbound
      sampleCall.context, false⟩,
    ⟨s, .route sampleCall, true⟩]

theorem sampleVisits_idle (source : List UInt64 → UInt64 → UInt64) (s : Surroundings) :
    ∀ p ∈ Visit.course source [] (sampleVisits s), p.1.stays = false → ¬p.2.Chosen := by
  intro p mem out
  simp only [sampleVisits, Visit.course_cons, Visit.course, List.mem_cons, List.not_mem_nil,
    or_false] at mem
  obtain rfl | rfl | rfl := mem
  · cases out
  · exact Routed.refused_of_error.not_chosen
  · cases out

/-- An exchange with funds, a campaign of two destinations and a source that answers 1 and 0. -/
def sampleDesk : Exchange :=
  { sample (Ledger.after .empty Ledger.sampleRun) 9 with
    campaigns := [("summer", .ok ⟨true, none, [⟨"sip:front", 1⟩, ⟨"sip:back", 1⟩]⟩)]
    source := .ofAnswers [1, 0]
    balanceSupply := some .ledger
    evaluates := true }

/-- With the provider's call or without it, the first call to the desk goes to the back and the
second one to the front. -/
theorem frugal_and_undisturbed_of_sampleVisits :
    (∀ before, AnswersBelow (counting before)) ∧
      (∀ p ∈ Visit.course counting [] (sampleVisits sampleSurroundings),
        p.1.stays = false → ¬p.2.Chosen) ∧
      Visit.course counting [] ((sampleVisits sampleSurroundings).filter Visit.stays) =
        (Visit.course counting [] (sampleVisits sampleSurroundings)).filter (fun p => p.1.stays) ∧
      let visits := sampleVisits sampleDesk.surroundings
      (∀ v ∈ visits, v.surroundings = sampleDesk.surroundings) ∧
        sampleDesk.replies (visits.filter Visit.stays) =
          ((visits.zip (sampleDesk.replies visits)).filter fun p => p.1.stays).map (·.2) ∧
        ∃ first second, sampleDesk.replies (visits.filter Visit.stays) =
          [.decision (.ok ⟨"acme", some "summer", .connect "sip:back", some .selected⟩) first,
            .decision (.ok ⟨"acme", some "summer", .connect "sip:front", some .selected⟩) second] := by
  have honest (before : List UInt64) : AnswersBelow (counting before) :=
    fun upper some_bound => UInt64.mod_lt _ some_bound
  obtain ⟨-, undisturbed, replies⟩ := frugal_and_undisturbed
  have idle := sampleVisits_idle counting sampleSurroundings
  have own : ∀ v ∈ sampleVisits sampleDesk.surroundings,
      v.surroundings = sampleDesk.surroundings := by
    simp [sampleVisits]
  exact ⟨honest, idle, (undisturbed counting honest [] _).2 idle, own,
    (replies sampleDesk _ own).2 (sampleVisits_idle _ _), _, _, rfl⟩

end Exchange

end CallExchange
