import CallExchange.Proofs.Routing.Ends

/-!
# The override layer

What lies on a shelf of overrides and applies to a call decides the call, alone and before anything
else is asked. If nothing applies, the call is routed as if there were no shelf. There is nothing in
between: an override that has expired or belongs to another workspace or campaign makes no
difference, even at the very instant at which it expires.

## Main definitions

* `Surroundings.shelved`, `Surroundings.bare` — routing over a shelf, and without an override stage
* `Surroundings.AllOrNothing` — what the overrides on a shelf mean for a call

## Main results

* `route_shelved_of_nil` — nothing applies
* `route_shelved_of_find` — something applies
* `all_or_nothing` — both, and what the decision does not depend on
-/

namespace CallExchange

open Text

namespace Shelf

variable {shelf before after : Shelf} {workspaceId : String} {campaignId : Option String}
  {now : Instant} {o : Override}

theorem mem_candidates :
    o ∈ shelf.candidates workspaceId campaignId now ↔
      o ∈ shelf ∧ o.IsActive now ∧ o.Covers workspaceId campaignId := by
  simp [candidates]

/-- An override that does not apply may lie on the shelf or not. -/
theorem candidates_of_idle (idle : ¬(o.IsActive now ∧ o.Covers workspaceId campaignId)) :
    candidates (before ++ o :: after) workspaceId campaignId now =
      candidates (before ++ after) workspaceId campaignId now := by
  rw [candidates, candidates, List.filter_append, List.filter_append,
    List.filter_cons_of_neg (by simpa using idle)]

theorem mem_of_find? (found : shelf.find? workspaceId campaignId now = some o) :
    o ∈ shelf.candidates workspaceId campaignId now := by
  rcases Option.or_eq_some_iff.mp found with own | ⟨-, first⟩
  · exact List.mem_of_find?_eq_some own
  · exact List.mem_of_mem_head? first

/-- Something is found as soon as something applies. -/
theorem find?_eq_none_iff :
    shelf.find? workspaceId campaignId now = none ↔
      shelf.candidates workspaceId campaignId now = [] := by
  constructor
  · intro nothing
    exact List.head?_eq_none_iff.mp (Option.or_eq_none_iff.mp nothing).2
  · intro nothing
    simp [find?, nothing]

/-- What is found depends on what applies only. -/
theorem find?_congr {shelf' : Shelf} {workspaceId' : String} {campaignId' : Option String}
    {now' : Instant}
    (same : shelf.candidates workspaceId campaignId now =
      shelf'.candidates workspaceId' campaignId' now') :
    shelf.find? workspaceId campaignId now = shelf'.find? workspaceId' campaignId' now' := by
  simp only [find?, same]

end Shelf

namespace Surroundings

variable {s : Surroundings} {shelf : Shelf} {input : RouteInput} {o : Override}

/-- Routing with a shelf behind its override stage. -/
def shelved (s : Surroundings) (shelf : Shelf) : Surroundings :=
  { s with
    overrides := some fun workspaceId campaignId _ now =>
      .ok (shelf.find? workspaceId campaignId now) }

/-- Routing without an override stage. -/
def bare (s : Surroundings) : Surroundings := { s with overrides := none }

/-- The overrides on a shelf that apply to a call now: they expire strictly later, and they are of
its workspace, and of its campaign if they name one. -/
def applying (s : Surroundings) (shelf : Shelf) (input : RouteInput) : List Override :=
  shelf.filter fun o => s.now < o.expiresAt ∧ o.workspaceId = input.workspaceId ∧
    (o.campaignId = none ∨ o.campaignId = input.campaign?)

/-- The overrides that apply are those from which a lookup takes one. -/
theorem candidates_eq_applying :
    shelf.candidates input.workspaceId input.campaign? s.now = s.applying shelf input := rfl

theorem find?_of_nil (nothing : s.applying shelf input = []) :
    shelf.find? input.workspaceId input.campaign? s.now = none :=
  Shelf.find?_eq_none_iff.mpr (candidates_eq_applying.trans nothing)

theorem exists_find?_of_ne_nil (something : s.applying shelf input ≠ []) :
    ∃ o, shelf.find? input.workspaceId input.campaign? s.now = some o := by
  refine Option.ne_none_iff_exists'.mp fun missed => something ?_
  rw [← candidates_eq_applying]
  exact Shelf.find?_eq_none_iff.mp missed

theorem passes_bare (named : ¬IsBlank input.workspaceId) : s.bare.Passes input :=
  ⟨named, fun _ some => by cases some⟩

/-- When nothing applies, the call is routed as if there were no override stage. -/
theorem route_shelved_of_nil (named : ¬IsBlank input.workspaceId)
    (nothing : s.applying shelf input = []) :
    (s.shelved shelf).route input = s.bare.route input := by
  have passes : (s.shelved shelf).Passes input := by
    refine ⟨named, ?_⟩
    rintro lookup ⟨⟩
    refine ⟨none, congrArg Except.ok (find?_of_nil nothing), ?_⟩
    rintro o ⟨⟩
  -- the stages that follow do not look at the shelf
  rw [route_of_passes passes, route_of_passes (passes_bare named)]
  rfl

/-- When something applies, the override that is found decides. -/
theorem route_shelved_of_find (named : ¬IsBlank input.workspaceId)
    (found : shelf.find? input.workspaceId input.campaign? s.now = some o) :
    (s.shelved shelf).route input =
      if isBlank o.connectTo then ⟨.error (.failed (.emptyOverrideTarget o.overrideId)), .empty⟩
      else ⟨.ok (.connect input.workspaceId input.campaign? o.connectTo),
        ⟨[], [], [],
          [s.appliedEvent input.workspaceId input.campaign? input.inbound input.context o]⟩⟩ := by
  obtain ⟨-, active, covers⟩ := Shelf.mem_candidates.mp (Shelf.mem_of_find? found)
  have inForce : (s.shelved shelf).InForce input o :=
    ⟨_, rfl, congrArg Except.ok found, active⟩
  exact route_of_inForce named inForce covers

/-- Where no override is in force, none is applied. -/
theorem events_of_unforced (unforced : s.Unforced input) : (s.route input).trace.events = [] := by
  have ends := ends_route s input
  generalize s.route input = r at ends ⊢
  cases ends with
  | nameless _ missing => rw [missing]; rfl
  | overruled _ overruled =>
    cases overruled with
    | forced inForce => exact (inForce.not_unforced unforced).elim
    | failed | outside | targetless => rfl
  | bypassed _ _ bypassed => cases bypassed <;> rfl
  | barred _ barred => cases barred <;> rfl
  | judged _ _ judged => cases judged <;> rfl

/-- What the overrides on a shelf mean for a call. -/
structure AllOrNothing (s : Surroundings) (shelf : Shelf) (input : RouteInput) : Prop where
  /-- Nothing applies: the call is routed as if there were no override stage, with the same answer
  and the same questions to the collaborators, and nothing is audited. -/
  nothing : s.applying shelf input = [] →
    (s.shelved shelf).route input = s.bare.route input ∧
      ((s.shelved shelf).route input).trace.events = []
  /-- Something applies: the call goes to the target of the override that is found, without a
  reason, unless the target is blank. Nobody else is asked, and what is applied is audited once. -/
  found : s.applying shelf input ≠ [] →
    ∃ o ∈ s.applying shelf input,
      shelf.find? input.workspaceId input.campaign? s.now = some o ∧
      (s.shelved shelf).route input =
        if isBlank o.connectTo then ⟨.error (.failed (.emptyOverrideTarget o.overrideId)), .empty⟩
        else ⟨.ok (.connect input.workspaceId input.campaign? o.connectTo),
          ⟨[], [], [],
            [s.appliedEvent input.workspaceId input.campaign? input.inbound input.context o]⟩⟩
  /-- What applies decides alone: the answer is that of any other routing at the same time, over any
  other shelf on which the same overrides apply, of any other call to the workspace and campaign. -/
  alone : s.applying shelf input ≠ [] →
    ∀ (s' : Surroundings) (shelf' : Shelf) (input' : RouteInput), s'.now = s.now →
      input'.workspaceId = input.workspaceId → input'.campaign? = input.campaign? →
      s'.applying shelf' input' = s.applying shelf input →
      ((s'.shelved shelf').route input').answer = ((s.shelved shelf).route input).answer
  /-- An override that does not apply may lie on the shelf or not. -/
  idle : ∀ before o after, shelf = before ++ o :: after →
    ¬(o.IsActive s.now ∧ o.Covers input.workspaceId input.campaign?) →
    (s.shelved (before ++ after)).route input = (s.shelved shelf).route input

/-- What lies on a shelf of overrides decides a call alone or not at all. -/
theorem all_or_nothing (named : ¬IsBlank input.workspaceId) : s.AllOrNothing shelf input where
  nothing nothing := by
    have same := route_shelved_of_nil named nothing
    exact ⟨same, by rw [same, events_of_unforced (passes_bare named).unforced]⟩
  found something := by
    obtain ⟨o, found⟩ := exists_find?_of_ne_nil something
    exact ⟨o, Shelf.mem_of_find? found, found, route_shelved_of_find named found⟩
  alone something s' shelf' input' now workspace campaign same := by
    obtain ⟨o, found⟩ := exists_find?_of_ne_nil something
    have found' : shelf'.find? input'.workspaceId input'.campaign? s'.now = some o :=
      (Shelf.find?_congr same).trans found
    have named' : ¬IsBlank input'.workspaceId := by rwa [workspace]
    -- the context and the call only show in the audit event
    rw [route_shelved_of_find named found, route_shelved_of_find named' found', workspace, campaign]
    by_cases blank : isBlank o.connectTo
    · rw [if_pos blank, if_pos blank]
    · rw [if_neg blank, if_neg blank]
  idle before o after split idle := by
    have same : s.applying (before ++ after) input = s.applying shelf input := by
      rw [split]
      exact (Shelf.candidates_of_idle idle).symm
    by_cases nothing : s.applying shelf input = []
    · rw [route_shelved_of_nil named nothing, route_shelved_of_nil named (same.trans nothing)]
    · obtain ⟨o, found⟩ := exists_find?_of_ne_nil nothing
      rw [route_shelved_of_find named found,
        route_shelved_of_find named ((Shelf.find?_congr same).trans found)]

/-- Of an override that expires now, one of another workspace, one of the whole workspace and one of
the campaign, the last decides the sample call. -/
def sampleShelf : Shelf :=
  let later : Instant := { Instant.start with hour := 23, clock_valid := by decide }
  [⟨"acme", some "summer", some "o-1", "sip:expired", .start, none⟩,
    ⟨"globex", none, some "o-2", "sip:globex", later, none⟩,
    ⟨"acme", none, some "o-3", "sip:acme", later, none⟩,
    ⟨"acme", some "summer", some "o-4", "sip:summer", later, none⟩]

theorem all_or_nothing_of_sampleShelf :
    ¬IsBlank sampleCall.workspaceId ∧ sampleSurroundings.AllOrNothing sampleShelf sampleCall :=
  ⟨by decide, all_or_nothing (by decide)⟩

example : ((sampleSurroundings.shelved sampleShelf).route sampleCall).answer =
    .ok (.connect "acme" (some "summer") "sip:summer") := rfl

end Surroundings

end CallExchange
