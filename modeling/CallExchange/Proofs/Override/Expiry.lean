import CallExchange.Proofs.Routing.Overrides
import Mathlib.Data.List.Find

/-!
# What has expired is never found again

A lookup sees the overrides that are active at its time, and in their order. What has expired by
then has expired for every later lookup, too. So clearing expired overrides away takes nothing from
a later lookup, and all that routing sees of a shelf at a time are the overrides that are active
then.

## Main definitions

* `Shelf.active` — the overrides that have not expired at a time
* `Override.Owns`, `Override.Spans` — an active override for the campaign of a request, and one for
  its whole workspace

## Main results

* `Shelf.active_active` — later, what has expired before makes no difference
* `Shelf.purge_eq` — what is cleared away
* `Shelf.find?_eq_or` — the first one for the campaign, else the first one for the workspace
* `Surroundings.route_shelved_congr` — routing over shelves on which the same overrides are active
-/

namespace CallExchange

open Text

namespace Override

variable {o : Override} {now later : Instant}

/-- What is active later is active now. -/
theorem IsActive.of_le (active : o.IsActive later) (le : now ≤ later) : o.IsActive now :=
  Instant.lt_of_le_of_lt le active

/-- The override is active and for the campaign of a request. -/
def Owns (o : Override) (workspaceId : String) (campaignId : Option String) (now : Instant) :
    Prop :=
  now < o.expiresAt ∧ o.workspaceId = workspaceId ∧ o.campaignId ≠ none ∧ o.campaignId = campaignId

instance (o : Override) (workspaceId : String) (campaignId : Option String) (now : Instant) :
    Decidable (o.Owns workspaceId campaignId now) :=
  inferInstanceAs (Decidable (_ ∧ _))

/-- The override is active and for the whole workspace of a request. -/
def Spans (o : Override) (workspaceId : String) (now : Instant) : Prop :=
  now < o.expiresAt ∧ o.workspaceId = workspaceId ∧ o.campaignId = none

instance (o : Override) (workspaceId : String) (now : Instant) :
    Decidable (o.Spans workspaceId now) :=
  inferInstanceAs (Decidable (_ ∧ _))

end Override

namespace Shelf

variable {shelf shelf' : Shelf} {workspaceId : String} {campaignId : Option String}
  {now later : Instant}

/-- The overrides that are active at a time. -/
def active (shelf : Shelf) (now : Instant) : Shelf := shelf.filter fun o => o.IsActive now

theorem active_append (before after : Shelf) :
    active (before ++ after) now = active before now ++ active after now :=
  List.filter_append ..

/-- Later, what has expired before makes no difference. -/
theorem active_active (le : now ≤ later) :
    (shelf.active now).active later = shelf.active later := by
  rw [active, active, List.filter_filter]
  refine List.filter_congr fun o _ => ?_
  by_cases active : o.IsActive later
  · simp [active, active.of_le le]
  · simp [active]

/-- A lookup takes one of the active overrides. -/
theorem candidates_active :
    (shelf.active now).candidates workspaceId campaignId now =
      shelf.candidates workspaceId campaignId now := by
  rw [candidates, active, candidates, List.filter_filter]
  refine List.filter_congr fun o _ => ?_
  by_cases active : o.IsActive now <;> simp [active]

/-- What is found depends on what is active only. -/
theorem find?_of_active (same : shelf.active now = shelf'.active now) :
    shelf.find? workspaceId campaignId now = shelf'.find? workspaceId campaignId now := by
  refine find?_congr ?_
  rw [← candidates_active, same, candidates_active]

/-- What has expired is counted and cleared away. -/
theorem purge_eq :
    shelf.purge now = (shelf.countP fun o => o.expiresAt ≤ now, shelf.active now) := by
  have parts := List.length_eq_countP_add_countP (fun o : Override => decide (o.IsActive now))
    (l := shelf)
  have expired : (shelf.countP fun o => decide ¬decide (o.IsActive now) = true) =
      shelf.countP fun o => decide (o.expiresAt ≤ now) := by
    refine List.countP_congr fun o _ => ?_
    have past : ¬o.IsActive now ↔ o.expiresAt ≤ now := Instant.not_lt
    simp [past]
  have kept : (shelf.active now).length = shelf.countP fun o => decide (o.IsActive now) :=
    List.countP_eq_length_filter.symm
  rw [expired] at parts
  refine Prod.ext ?_ rfl
  change shelf.length - (shelf.active now).length = _
  omega

/-- A lookup finds the first active override for the campaign, failing that the first one for the
whole workspace. -/
theorem find?_eq_or :
    shelf.find? workspaceId campaignId now =
      (List.find? (fun o => o.Owns workspaceId campaignId now) shelf).or
        (List.find? (fun o => o.Spans workspaceId now) shelf) := by
  have own :
      List.find? (fun o => o.campaignId.isSome) (shelf.candidates workspaceId campaignId now) =
        List.find? (fun o => o.Owns workspaceId campaignId now) shelf := by
    rw [candidates, List.find?_filter]
    refine List.find?_congr fun o _ => ?_
    cases scope : o.campaignId <;>
      simp [Override.Owns, Override.IsActive, Override.Covers, scope]
  have first : (shelf.candidates workspaceId campaignId now).head? =
      List.find? (fun o => o.IsActive now ∧ o.Covers workspaceId campaignId) shelf :=
    List.head?_filter
  rw [find?, own, first]
  cases none_own : List.find? (fun o => o.Owns workspaceId campaignId now) shelf with
  | some o => rfl
  | none =>
    -- whatever applies is for the whole workspace then
    rw [Option.none_or, Option.none_or]
    refine List.find?_congr fun o mem => ?_
    have foreign : ¬o.Owns workspaceId campaignId now := by
      simpa using List.find?_eq_none.mp none_own o mem
    simp only [Override.Owns, Override.Spans, Override.IsActive, Override.Covers] at foreign ⊢
    grind

end Shelf

namespace Surroundings

variable {s s' : Surroundings} {shelf shelf' : Shelf} {input : RouteInput} {workspaceId : String}
  {campaignId : Option String} {lookup lookup' : OverrideLookup} {call : InboundCall}
  {context : CallContext}

/-- The override stage looks at the time and at what is found only, and it finds nothing for a call
without a workspace. -/
theorem override?_congr (now : s.now = s'.now)
    (found : ¬IsBlank workspaceId →
      lookup workspaceId campaignId call s.now = lookup' workspaceId campaignId call s'.now) :
    s.override? lookup workspaceId campaignId call context =
      s'.override? lookup' workspaceId campaignId call context := by
  by_cases blank : IsBlank workspaceId
  · simp only [override?, failIf, blank, if_true]
    rfl
  · have found := found blank
    rw [now] at found
    simp only [override?, applied, appliedEvent, now, found]

/-- Routing is the same over shelves on which the same overrides are active. -/
theorem route_shelved_congr
    (same : ¬IsBlank input.workspaceId → shelf.active s.now = shelf'.active s.now) :
    (s.shelved shelf).route input = (s.shelved shelf').route input := by
  have staged : (s.shelved shelf).override?
        (fun workspaceId campaignId _ now => .ok (shelf.find? workspaceId campaignId now))
        input.workspaceId (present input.campaignId) input.inbound input.context =
      (s.shelved shelf').override?
        (fun workspaceId campaignId _ now => .ok (shelf'.find? workspaceId campaignId now))
        input.workspaceId (present input.campaignId) input.inbound input.context :=
    override?_congr rfl fun named => congrArg Except.ok (Shelf.find?_of_active (same named))
  simp only [route, decide, shelved] at staged ⊢
  rw [staged]
  rfl

end Surroundings

end CallExchange
