import CallExchange.Proofs.Exchange.Questions
import CallExchange.Proofs.Override.Expiry

/-!
# Nobody notices a purge

Clearing expired overrides away leaves a shelf on which the same overrides are active, now and at
any later time. As long as the shelf is not asked about earlier times, a session of an exchange goes
on as it would have gone on without its purges: the answers, the log and the exchange after each
step are the same, but for what lies on the shelf. And what is found on a shelf can be told from
what has been put there, whether it has been purged or not.

## Main definitions

* `Step.purges`, `Exchange.consults` — steps that clear overrides away, and steps that give the
  shelf a time
* `Exchange.after`, `Exchange.consultations` — the exchange after some steps, and the times at which
  they consult the shelf
* `Result.unshelved` — what a step leaves behind, apart from what lies on the shelf
* `Exchange.Unnoticed` — what purges mean for a session

## Main results

* `step_reshelved` — a step over another shelf on which the same overrides are active
* `run_reshelved` — a session over another shelf, without its purges
* `active_shelf_after` — what is active after a session, told from what has been put on the shelf
* `unnoticed_of_ordered` — purges go unnoticed
-/

namespace CallExchange.Exchange

open Text

/-- The step clears expired overrides away. -/
def Step.purges : Step → Bool
  | .purgeOverrides => true
  | .setNow _ | .ledger _ | .insertOverride _ | .findOverride .. | .decideOverride .. |
    .setCampaign .. | .route _ | .routeInbound .. | .takeEvents | .send _ | .append _ | .drain |
    .close | .abort | .records _ => false

/-- The override that the step puts on the shelf, if it does. -/
def Step.inserted? : Step → Option Override
  | .insertOverride o => some o
  | .purgeOverrides | .setNow _ | .ledger _ | .findOverride .. | .decideOverride .. |
    .setCampaign .. | .route _ | .routeInbound .. | .takeEvents | .send _ | .append _ | .drain |
    .close | .abort | .records _ => none

/-- Routing looks for overrides on the shelf. -/
def routesOverShelf (x : Exchange) : Bool :=
  match x.overrideSupply with
  | some .shelf => true
  | some (.fixed _) | some (.failing _) | none => false

/-- The request is understood, and the workspace of its call is named. -/
def namesWorkspace (q : RouteRequest) : Bool :=
  match q.input with
  | .ok input => !isBlank input.workspaceId
  | .error _ => false

/-- The step gives the shelf the time of the clock, be it to clear overrides away or to look one
up. -/
def consults (x : Exchange) : Step → Bool
  | .purgeOverrides | .findOverride .. => true
  | .decideOverride workspaceId .. => x.routesOverShelf && !isBlank workspaceId
  | .route input => x.routesOverShelf && namesWorkspace (.route input)
  | .routeInbound (.chain r) call context =>
    x.routesOverShelf && namesWorkspace (.inbound r call context)
  | .routeInbound .rejectAll .. | .setNow _ | .ledger _ | .insertOverride _ | .setCampaign .. |
    .takeEvents | .send _ | .append _ | .drain | .close | .abort | .records _ => false

/-- The exchange after some steps. -/
def after (x : Exchange) (steps : List Step) : Exchange :=
  steps.foldl (fun x s => (x.step s).next) x

/-- The times that some steps give the shelf, in their order. -/
def consultations (x : Exchange) : List Step → List Instant
  | [] => []
  | s :: rest => (if x.consults s then [x.now] else []) ++ (x.step s).next.consultations rest

/-- The overrides that some steps put on the shelf, in their order. -/
def inserted (steps : List Step) : Shelf := steps.filterMap Step.inserted?

/-- The exchange with another shelf. -/
def reshelved (x : Exchange) (shelf : Shelf) : Exchange := { x with shelf }

/-- What a step leaves behind, apart from what lies on the shelf. -/
def Result.unshelved (r : Result) : Result := ⟨r.answer, r.log, r.next.reshelved []⟩

/-- What purges mean for a session. -/
structure Unnoticed (x : Exchange) (steps : List Step) : Prop where
  /-- Without the purges every other step leaves behind what it leaves behind with them: answers,
  decisions, lines of the log, audit events, and everything else but what lies on the shelf. -/
  invisible : (x.run (steps.filter fun s => !s.purges)).map Result.unshelved =
    ((steps.zip (x.run steps)).filter fun p => !p.1.purges).map fun p => p.2.unshelved
  /-- A purge answers with the number of overrides on the shelf that expire at its time or have
  expired before. -/
  counted : ∀ i, steps[i]? = some .purgeOverrides →
    (x.run steps)[i]?.map Result.answer = some (.count
      ((x.after (steps.take i)).shelf.countP fun o =>
        o.expiresAt ≤ (x.after (steps.take i)).now))
  /-- A lookup finds the first of all overrides that have been put on the shelf, in their order,
  that is active and for the campaign of the request; failing that the first one that is active and
  for the whole workspace; failing that nothing. -/
  first : ∀ i workspaceId campaignId, steps[i]? = some (.findOverride workspaceId campaignId) →
    (x.run steps)[i]?.map Result.answer = some (.maybeOverride
      ((List.find? (fun o => o.Owns workspaceId campaignId (x.after (steps.take i)).now)
        (x.shelf ++ inserted (steps.take i))).or
      (List.find? (fun o => o.Spans workspaceId (x.after (steps.take i)).now)
        (x.shelf ++ inserted (steps.take i)))))

variable {x : Exchange} {s : Step} {steps : List Step} {shelf : Shelf} {t : Instant} {i : Nat}

/-! ### Another shelf -/

theorem surroundings_reshelved_of_shelf (relies : x.routesOverShelf = true) :
    (x.reshelved shelf).surroundings = x.surroundings.shelved shelf := by
  unfold routesOverShelf at relies
  split at relies
  · next supply =>
    simp only [reshelved, surroundings, supply, Option.map_some, lookup, Surroundings.shelved]
    rfl
  all_goals cases relies

theorem surroundings_reshelved_of_not_shelf (elsewhere : ¬x.routesOverShelf = true) :
    (x.reshelved shelf).surroundings = x.surroundings := by
  unfold routesOverShelf at elsewhere
  split at elsewhere
  · exact absurd rfl elsewhere
  all_goals
    next supply =>
    simp only [reshelved, surroundings, supply]
    rfl

/-- A request is handled alike over shelves on which the same overrides are active. -/
theorem handle_reshelved (q : RouteRequest)
    (same : (x.routesOverShelf && namesWorkspace q) = true →
      shelf.active x.now = x.shelf.active x.now) :
    (x.reshelved shelf).surroundings.handle q = x.surroundings.handle q := by
  by_cases relies : x.routesOverShelf = true
  · have own : x.surroundings = x.surroundings.shelved x.shelf :=
      @surroundings_reshelved_of_shelf x x.shelf relies
    rw [surroundings_reshelved_of_shelf relies]
    conv => rhs; rw [own]
    cases known : q.input with
    | error e => rw [Surroundings.handle_of_error known, Surroundings.handle_of_error known]
    | ok input =>
      rw [Surroundings.handle_of_ok known, Surroundings.handle_of_ok known]
      refine Surroundings.route_shelved_congr fun present => same ?_
      simpa [relies, namesWorkspace, known] using present
  · rw [surroundings_reshelved_of_not_shelf relies]

/-- The override stage makes the same of shelves on which the same overrides are active. -/
theorem override?_reshelved {supply : OverrideSupply} {workspaceId : String}
    {campaignId : Option String} {call : InboundCall} {context : CallContext}
    (supplied : x.overrideSupply = some supply)
    (same : (x.routesOverShelf && !isBlank workspaceId) = true →
      shelf.active x.now = x.shelf.active x.now) :
    (x.reshelved shelf).surroundings.override? ((x.reshelved shelf).lookup supply) workspaceId
        campaignId call context =
      x.surroundings.override? (x.lookup supply) workspaceId campaignId call context := by
  refine Surroundings.override?_congr rfl fun present => ?_
  cases supply with
  | fixed | failing => rfl
  | shelf =>
    have relies : x.routesOverShelf = true := by simp only [routesOverShelf, supplied]
    exact congrArg Except.ok (Shelf.find?_of_active (same (by simpa [relies] using present)))

theorem finish_reshelved (r : Routed Decision) :
    (x.reshelved shelf).finish r = ((x.finish r).1, (x.finish r).2.reshelved shelf) := by
  unfold finish
  cases r.answer <;> rfl

theorem step_request_reshelved (q : RouteRequest)
    (same : (x.routesOverShelf && namesWorkspace q) = true →
      shelf.active x.now = x.shelf.active x.now) :
    (x.reshelved shelf).step q.step =
      ⟨(x.step q.step).answer, (x.step q.step).log, (x.step q.step).next.reshelved shelf⟩ := by
  rw [step_request, step_request, handle_reshelved q same, finish_reshelved]

/-- What a step makes of a shelf, unless it clears overrides away. -/
def Step.stock (s : Step) (shelf : Shelf) : Shelf :=
  match s.inserted? with
  | some o => shelf.insert o
  | none => shelf

/-- A step that clears nothing away is the same over a shelf on which the same overrides are
active. -/
theorem step_reshelved (stays : s.purges = false)
    (same : x.consults s = true → shelf.active x.now = x.shelf.active x.now) :
    (x.reshelved shelf).step s =
      ⟨(x.step s).answer, (x.step s).log, (x.step s).next.reshelved (s.stock shelf)⟩ := by
  cases s with
  | purgeOverrides => cases stays
  | setNow | ledger | insertOverride | setCampaign | takeEvents | append | drain | close | abort
  | records => rfl
  | send e =>
    have trail : (x.reshelved shelf).trail = x.trail := rfl
    simp only [step, trail]
    cases (x.trail.offer e).1 <;> rfl
  | findOverride workspaceId campaignId =>
    have found : shelf.find? workspaceId campaignId x.now =
        x.shelf.find? workspaceId campaignId x.now := Shelf.find?_of_active (same rfl)
    simp only [step, ← found]
    rfl
  | decideOverride workspaceId campaignId call context =>
    have supply : (x.reshelved shelf).overrideSupply = x.overrideSupply := rfl
    simp only [step, supply]
    cases supplied : x.overrideSupply with
    | none => rfl
    | some supply =>
      simp only [stepOverride, override?_reshelved supplied same]
      rfl
  | route input => exact step_request_reshelved (.route input) same
  | routeInbound router call context =>
    cases router with
    | rejectAll => rfl
    | chain resolver => exact step_request_reshelved (.inbound resolver call context) same

/-! ### Sessions -/

theorem stock_eq : s.stock shelf = shelf ++ s.inserted?.toList := by
  unfold Step.stock
  cases s.inserted? with
  | some o => rfl
  | none => exact (List.append_nil shelf).symm

theorem shelf_step (stays : s.purges = false) : (x.step s).next.shelf = s.stock x.shelf :=
  congrArg (fun r => r.next.shelf) (@step_reshelved x s x.shelf stays fun _ => rfl)

theorem consults_of_purges (purges : s.purges = true) : x.consults s = true := by
  cases s with
  | purgeOverrides => rfl
  | _ => cases purges

theorem step_purge (purges : s.purges = true) :
    x.step s =
      ⟨.count (x.shelf.countP fun o => o.expiresAt ≤ x.now), [],
        x.reshelved (x.shelf.active x.now)⟩ := by
  cases s with
  | purgeOverrides =>
    simp only [step, Shelf.purge_eq]
    rfl
  | _ => cases purges

/-- A session goes on as it would go on without its purges over a shelf on which, at all times that
it gives the shelf, the same overrides are active. -/
theorem run_reshelved (ordered : (x.consultations steps).Pairwise (· ≤ ·))
    (same : ∀ t ∈ x.consultations steps, shelf.active t = x.shelf.active t) :
    ((x.reshelved shelf).run (steps.filter fun s => !s.purges)).map Result.unshelved =
      ((steps.zip (x.run steps)).filter fun p => !p.1.purges).map fun p => p.2.unshelved := by
  -- the two shelves stay alike at the times that are still to come
  induction steps generalizing x shelf with
  | nil => rfl
  | cons s rest ih =>
    rw [consultations] at ordered same
    obtain ⟨-, later, before⟩ := List.pairwise_append.mp ordered
    have still : ∀ t ∈ (x.step s).next.consultations rest, shelf.active t = x.shelf.active t :=
      fun t mem => same t (List.mem_append_right _ mem)
    cases purges : s.purges with
    | true =>
      have consults : x.consults s = true := consults_of_purges purges
      have alike : ∀ t ∈ (x.step s).next.consultations rest,
          shelf.active t = (x.step s).next.shelf.active t := by
        intro t mem
        have le : x.now ≤ t := before _ (by simp [consults]) t mem
        rw [still t mem, step_purge purges]
        exact (Shelf.active_active le).symm
      have after_alike := ih later alike
      simp only [List.filter_cons, run, List.zip_cons_cons, purges, Bool.not_true,
        Bool.false_eq_true, if_false]
      rw [← after_alike, step_purge purges]
      rfl
    | false =>
      have alike : ∀ t ∈ (x.step s).next.consultations rest,
          (s.stock shelf).active t = (x.step s).next.shelf.active t := by
        intro t mem
        rw [shelf_step purges, stock_eq, stock_eq, Shelf.active_append, Shelf.active_append,
          still t mem]
      have now : x.consults s = true → shelf.active x.now = x.shelf.active x.now :=
        fun consults => same _ (by simp [consults])
      simp only [List.filter_cons, run, List.zip_cons_cons, purges, Bool.not_false, if_true,
        List.map_cons, step_reshelved purges now, ih later alike]
      rfl

theorem after_cons : x.after (s :: steps) = (x.step s).next.after steps := rfl

theorem consultations_append (before later : List Step) :
    x.consultations (before ++ later) =
      x.consultations before ++ (x.after before).consultations later := by
  induction before generalizing x with
  | nil => rfl
  | cons s rest ih =>
    rw [List.cons_append, consultations, ih, consultations, List.append_assoc, after_cons]

/-- The result of a step of a session is that of the step in the exchange as it is by then. -/
theorem getElem?_run :
    (x.run steps)[i]? = steps[i]?.map fun s => (x.after (steps.take i)).step s := by
  induction steps generalizing x i with
  | nil => rfl
  | cons s rest ih =>
    cases i with
    | zero => rfl
    | succ i => exact ih

theorem inserted_cons : inserted (s :: steps) = s.inserted?.toList ++ inserted steps := by
  rw [inserted, List.filterMap_cons]
  cases s.inserted? <;> rfl

theorem inserted?_of_purges (purges : s.purges = true) : s.inserted? = none := by
  cases s with
  | purgeOverrides => rfl
  | _ => cases purges

/-- What is active at a time that is not earlier than those that the shelf has been given is what is
active then of all that has been put on the shelf. -/
theorem active_shelf_after (past : ∀ t' ∈ x.consultations steps, t' ≤ t) :
    (x.after steps).shelf.active t = (x.shelf ++ inserted steps).active t := by
  -- a purge clears away what has expired by its time, which is not active later
  induction steps generalizing x with
  | nil => exact congrArg (Shelf.active · t) (List.append_nil x.shelf).symm
  | cons s rest ih =>
    rw [consultations] at past
    obtain ⟨now, later⟩ := List.forall_mem_append.mp past
    rw [after_cons, ih later, inserted_cons, Shelf.active_append, Shelf.active_append]
    cases purges : s.purges with
    | true =>
      have consults : x.consults s = true := consults_of_purges purges
      have le : x.now ≤ t := now _ (by simp [consults])
      rw [step_purge purges, inserted?_of_purges purges]
      exact congrArg (· ++ _) (Shelf.active_active le)
    | false =>
      rw [shelf_step purges, stock_eq, Shelf.active_append, Shelf.active_append, List.append_assoc]

/-- The times that the shelf has been given before a step that gives it a time are not later. -/
theorem past_of_ordered (ordered : (x.consultations steps).Pairwise (· ≤ ·))
    (here : steps[i]? = some s) (consults : (x.after (steps.take i)).consults s = true) :
    ∀ t ∈ x.consultations (steps.take i), t ≤ (x.after (steps.take i)).now := by
  obtain ⟨lt, rfl⟩ := List.getElem?_eq_some_iff.mp here
  -- the time of the step stands behind those of the steps before it
  have parts : steps = steps.take i ++ steps[i] :: steps.drop (i + 1) := by
    rw [← List.drop_eq_getElem_cons lt, List.take_append_drop]
  rw [parts, consultations_append, consultations] at ordered
  intro t mem
  exact (List.pairwise_append.mp ordered).2.2 t mem _ (by simp [consults])

/-- Purges go unnoticed as long as the shelf is not given earlier times than before. -/
theorem unnoticed_of_ordered (ordered : (x.consultations steps).Pairwise (· ≤ ·)) :
    x.Unnoticed steps where
  invisible := @run_reshelved x steps x.shelf ordered fun _ _ => rfl
  counted i here := by
    rw [getElem?_run, here, Option.map_some, Option.map_some, step_purge rfl]
  first i workspaceId campaignId here := by
    have past := past_of_ordered ordered here rfl
    have found : (x.after (steps.take i)).shelf.find? workspaceId campaignId _ =
        Shelf.find? (x.shelf ++ inserted (steps.take i)) workspaceId campaignId _ :=
      Shelf.find?_of_active (active_shelf_after past)
    rw [getElem?_run, here, Option.map_some, Option.map_some, ← Shelf.find?_eq_or, ← found]
    rfl

/-- Two overrides of a campaign and one of its workspace are put on a shelf; when the first has
expired it is cleared away, and the call is forced to the target of the second. -/
def sampleSession : List Step :=
  let soon : Instant := { Instant.start with second := 30, clock_valid := by decide }
  let later : Instant := { Instant.start with minute := 40, clock_valid := by decide }
  [.insertOverride ⟨"acme", none, some "o-1", "sip:acme", later, none⟩,
    .insertOverride ⟨"acme", some "summer", some "o-2", "sip:beach", soon, none⟩,
    .insertOverride ⟨"acme", some "summer", some "o-3", "sip:pool", later, none⟩,
    .findOverride "acme" (some "summer"), .setNow soon, .purgeOverrides, .route sampleCall,
    .findOverride "acme" (some "summer"), .purgeOverrides]

theorem unnoticed_of_sampleSession :
    (keeper.consultations sampleSession).Pairwise (· ≤ ·) ∧ keeper.Unnoticed sampleSession :=
  ⟨by decide, unnoticed_of_ordered (by decide)⟩

example : ((keeper.run sampleSession)[5]?.map Result.answer) = some (.count 1) := rfl

end CallExchange.Exchange
