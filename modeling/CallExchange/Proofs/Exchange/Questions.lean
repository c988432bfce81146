import CallExchange.Proofs.Exchange.Outcomes
import CallExchange.Proofs.Exchange.Vetting
import CallExchange.Proofs.Ledger.Service
import CallExchange.Proofs.Routing.Proportion

/-!
# What routing asks

Routing a call asks each of its collaborators once at most, and it changes nothing but the audit
trail and the random source: the trail where an override has decided, the source where a campaign
has let the call choose a destination. Never both, and neither where routing fails.

## Main definitions

* `RouteRequest`, `Surroundings.handle` — a call to route, from a caller of the engine or from a
  provider
* `Surroundings.Forced` — an override forces the call
* `Routed.Chosen` — the call is connected to a destination of its campaign
* `Surroundings.Questioned` — what a call has asked when its routing ends
* `Exchange.Frugal` — what a request does to an exchange

## Main results

* `questioned_of_ends` — what the ends of routing have asked
* `Exchange.frugal` — what any request has asked, in any surroundings
-/

namespace CallExchange

open Text

/-! ### Requests -/

/-- A call to route: as a caller of the engine describes it, or as a provider reports it and a
resolver completes it. -/
inductive RouteRequest where
  | route (input : RouteInput)
  | inbound (r : Resolver) (call : InboundCall) (context : CallContext)

namespace RouteRequest

/-- What is known of the call, if the resolver finds it out. -/
def input : RouteRequest → Except RoutingError RouteInput
  | .route input => .ok input
  | .inbound r call context => r.input call context

/-- The step of an exchange that serves the request. -/
def step : RouteRequest → Exchange.Step
  | .route input => .route input
  | .inbound r call context => .routeInbound (.chain r) call context

/-- What that step answers where routing has come to an end. -/
def reply : RouteRequest → Routed Decision → Exchange.Answer
  | .route _, r => .decision r.answer r.trace
  | .inbound .., r => .inbound (r.answer.map Decision.toAnswer) r.trace

end RouteRequest

/-- Routes the call of a request. -/
def Surroundings.handle (s : Surroundings) : RouteRequest → Routed Decision
  | .route input => s.route input
  | .inbound r call context => s.routeInbound r call context

/-- The call is connected to a destination of its campaign that was chosen by weight. -/
def Routed.Chosen (r : Routed Decision) : Prop :=
  ∃ d target, r.answer = .ok d ∧ d.action = .connect target ∧
    (d.reason = some .selected ∨ d.reason = some .adminOverride)

/-- Everybody is asked once at most, and not both the audit trail and the random source. -/
structure RouteTrace.Sparing (t : RouteTrace) : Prop where
  one_read : t.balanceReads.length ≤ 1
  one_evaluation : t.evaluations.length ≤ 1
  one_draw : t.draws.length ≤ 1
  one_event : t.events.length ≤ 1
  apart : t.events = [] ∨ t.draws = []

theorem RouteTrace.sparing_empty : RouteTrace.empty.Sparing :=
  ⟨Nat.zero_le 1, Nat.zero_le 1, Nat.zero_le 1, Nat.zero_le 1, .inl rfl⟩

/-- The call is connected to nothing: routing fails or rejects it. -/
def Routed.Refused (r : Routed Decision) : Prop :=
  ∀ d, r.answer = .ok d → ∃ reason, d = .reject d.workspaceId d.campaignId reason

theorem Routed.Refused.not_chosen {r : Routed Decision} (refused : r.Refused) : ¬r.Chosen := by
  rintro ⟨d, target, decided, connects, -⟩
  obtain ⟨reason, rejects⟩ := refused d decided
  rw [rejects] at connects
  cases connects

theorem Routed.refused_of_error {h : Halt RoutingError} {t : RouteTrace} :
    (⟨.error h, t⟩ : Routed Decision).Refused := by
  intro d decided
  cases decided

theorem Routed.refused_of_reject {workspaceId : String} {campaignId : Option String}
    {reason : Reason} {t : RouteTrace} :
    (⟨.ok (.reject workspaceId campaignId reason), t⟩ : Routed Decision).Refused := by
  intro d decided
  cases decided
  exact ⟨reason, rfl⟩

theorem Exchange.step_request (x : Exchange) (q : RouteRequest) :
    x.step q.step =
      ⟨q.reply (x.surroundings.handle q), (x.finish (x.surroundings.handle q)).1,
        (x.finish (x.surroundings.handle q)).2⟩ := by
  cases q <;> rfl

namespace Surroundings

variable {s : Surroundings} {q : RouteRequest} {input : RouteInput} {r : Routed Decision}

theorem handle_of_error {e : RoutingError} (unknown : q.input = .error e) :
    s.handle q = ⟨.error (.failed e), .empty⟩ := by
  cases q with
  | route input => cases unknown
  | inbound r call context =>
    have unknown : r.input call context = .error e := unknown
    simp only [handle, routeInbound, unknown]

theorem handle_of_ok (known : q.input = .ok input) : s.handle q = s.route input := by
  cases q with
  | route input =>
    cases known
    rfl
  | inbound r call context =>
    have known : r.input call context = .ok input := known
    simp only [handle, routeInbound, known]

/-! ### What the ends of routing have asked -/

/-- The override stage finds an override that forces the call. -/
def Forced (s : Surroundings) (input : RouteInput) : Prop :=
  ¬IsBlank input.workspaceId ∧ ∃ lookup o, s.overrides = some lookup ∧
    lookup input.workspaceId input.campaign? input.inbound s.now = .ok (some o) ∧
    o.Forces s.now input.workspaceId input.campaign?

/-- The rules of the campaign do not keep the call from choosing. -/
def Permits (input : RouteInput) (evaluation : Evaluation) : Prop :=
  evaluation.allowed = true ∨ input.isPrivileged = true

theorem Unforced.not_forced (unforced : s.Unforced input) : ¬s.Forced input := by
  rintro ⟨-, lookup, o, overrides, found, forces⟩
  have inForce : s.InForce input o := ⟨lookup, overrides, found, forces.unexpired⟩
  exact inForce.not_unforced unforced

/-- What a call has asked when its routing ends. -/
inductive Questioned (s : Surroundings) (input : RouteInput) (r : Routed Decision) : Prop
  /-- An override has decided, and only the audit trail hears of the call. -/
  | forced {o : Override} (forced : s.Forced input)
      (decided : r.answer =
        .ok (.connect input.workspaceId input.campaign? o.connectTo))
      (asked : r.trace = ⟨[], [], [],
        [s.appliedEvent input.workspaceId input.campaign? input.inbound input.context o]⟩)
  /-- The call has not come to choose. -/
  | barred {reads : List WalletKey} {evaluations : List EvaluatorCall}
      (unforced : ¬s.Forced input) (asked : r.trace = ⟨reads, evaluations, [], []⟩)
      (one_read : reads.length ≤ 1) (one_evaluation : evaluations.length ≤ 1)
      (unpermitted : evaluations ≠ [] → ∀ campaign evaluation,
        s.Evaluates input campaign (.ok evaluation) → ¬Permits input evaluation)
      (refused : r.Refused)
  /-- The call has chosen, if there was a destination to choose. -/
  | chose {reads : List WalletKey} {campaign : String} {evaluation : Evaluation}
      (unforced : ¬s.Forced input) (one_read : reads.length ≤ 1)
      (evaluates : s.Evaluates input campaign (.ok evaluation))
      (permits : Permits input evaluation)
      (asked : r.trace =
        ⟨reads, [input.evaluation campaign], s.asked evaluation.destinations, []⟩)
      (decided : ∃ d, r.answer = .ok d ∧ d.reason ≠ none)
      (chosen : r.Chosen ↔ ∃ d, s.picked? evaluation.destinations = some d)

/-- A call that has read balances at most, and has not been forced, has not come to choose. -/
theorem questioned_of_reads {reads : List WalletKey} (unforced : ¬s.Forced input)
    (asked : r.trace = .ofReads reads) (one_read : reads.length ≤ 1) (refused : r.Refused) :
    s.Questioned input r :=
  .barred unforced asked one_read (Nat.zero_le 1) (fun evaluated => absurd rfl evaluated) refused

theorem questioned_of_overruled (named : ¬IsBlank input.workspaceId)
    (overruled : s.Overruled input r) : s.Questioned input r := by
  -- whatever else the stage has found does not force the call
  cases overruled with
  | failed overrides failure =>
    refine questioned_of_reads ?_ rfl (Nat.zero_le 1) Routed.refused_of_error
    rintro ⟨-, lookup, o, overrides', found, -⟩
    cases overrides.symm.trans overrides'
    cases failure.symm.trans found
  | outside inForce elsewhere =>
    refine questioned_of_reads ?_ rfl (Nat.zero_le 1) Routed.refused_of_error
    rintro ⟨-, lookup, o, overrides, found, forces⟩
    cases inForce.unique ⟨lookup, overrides, found, forces.unexpired⟩
    exact elsewhere ⟨forces.workspace, forces.campaign⟩
  | targetless inForce covers blank =>
    refine questioned_of_reads ?_ rfl (Nat.zero_le 1) Routed.refused_of_error
    rintro ⟨-, lookup, o, overrides, found, forces⟩
    cases inForce.unique ⟨lookup, overrides, found, forces.unexpired⟩
    exact forces.target blank
  | forced inForce covers target =>
    obtain ⟨lookup, overrides, found, active⟩ := inForce
    exact .forced ⟨named, lookup, _, overrides, found, active, covers.1, covers.2, target⟩ rfl rfl

theorem questioned_of_bypassed (unforced : ¬s.Forced input) (privileged : input.isPrivileged = true)
    (bypassed : s.Bypassed input r) : s.Questioned input r := by
  -- the bypass comes before the balance gate
  have unread : ([] : List WalletKey).length ≤ 1 := Nat.zero_le 1
  cases bypassed with
  | unserved nobody => exact questioned_of_reads unforced rfl unread Routed.refused_of_reject
  | failed evaluates =>
    refine .barred unforced rfl unread (Nat.le_refl 1) ?_ Routed.refused_of_reject
    intro _ campaign evaluation answered
    cases (evaluates.unique answered).2
  | undelivered evaluates nothing =>
    refine .chose unforced unread evaluates (.inr privileged) rfl ⟨_, rfl, nofun⟩ ?_
    simp [Routed.refused_of_reject.not_chosen, nothing]
  | connected evaluates picked =>
    refine .chose unforced unread evaluates (.inr privileged) rfl ⟨_, rfl, nofun⟩ ?_
    exact ⟨fun _ => ⟨_, picked⟩, fun _ => ⟨_, _, rfl, rfl, .inr rfl⟩⟩

theorem questioned_of_barred (unforced : ¬s.Forced input) (barred : s.Barred input r) :
    s.Questioned input r := by
  cases barred with
  | unwired | walletless | currencyless =>
    exact questioned_of_reads unforced rfl (Nat.zero_le 1) Routed.refused_of_error
  | waiting | failed => exact questioned_of_reads unforced rfl (Nat.le_refl 1) Routed.refused_of_error
  | foreign | short => exact questioned_of_reads unforced rfl (Nat.le_refl 1) Routed.refused_of_reject

/-- To let a call through, the gate reads one balance at most. -/
theorem Cleared.length_le {reads : List WalletKey} (cleared : s.Cleared input reads) :
    reads.length ≤ 1 := by
  cases cleared with
  | free => exact Nat.zero_le 1
  | covered => exact Nat.le_refl 1

theorem questioned_of_judged {reads : List WalletKey} (unforced : ¬s.Forced input)
    (unprivileged : input.isPrivileged = false) (one_read : reads.length ≤ 1)
    (judged : s.Judged input reads r) : s.Questioned input r := by
  cases judged with
  | campaignless => exact questioned_of_reads unforced rfl one_read Routed.refused_of_reject
  | unwired => exact questioned_of_reads unforced rfl one_read Routed.refused_of_error
  | failed evaluates =>
    refine .barred unforced rfl one_read (Nat.le_refl 1) ?_ Routed.refused_of_error
    intro _ campaign evaluation answered
    cases (evaluates.unique answered).2
  | denied evaluates refuses =>
    refine .barred unforced rfl one_read (Nat.le_refl 1) ?_ Routed.refused_of_reject
    intro _ campaign evaluation answered
    cases (evaluates.unique answered).2
    simp [Permits, refuses, unprivileged]
  | undelivered evaluates allows nothing =>
    refine .chose unforced one_read evaluates (.inl allows) rfl ⟨_, rfl, nofun⟩ ?_
    simp [Routed.refused_of_reject.not_chosen, nothing]
  | selected evaluates allows picked =>
    refine .chose unforced one_read evaluates (.inl allows) rfl ⟨_, rfl, nofun⟩ ?_
    exact ⟨fun _ => ⟨_, picked⟩, fun _ => ⟨_, _, rfl, rfl, .inl rfl⟩⟩

/-- However routing ends, it has asked no more than this. -/
theorem questioned_of_ends (ends : s.Ends input r) : s.Questioned input r := by
  cases ends with
  | nameless blank missing =>
    subst missing
    exact questioned_of_reads (fun forced => forced.1 blank) rfl (Nat.zero_le 1) Routed.refused_of_error
  | overruled named overruled => exact questioned_of_overruled named overruled
  | bypassed passes privileged bypassed =>
    exact questioned_of_bypassed passes.unforced.not_forced privileged bypassed
  | barred ordinary barred => exact questioned_of_barred ordinary.unforced.not_forced barred
  | judged ordinary cleared judged =>
    exact questioned_of_judged ordinary.unforced.not_forced ordinary.unprivileged cleared.length_le
      judged

/-- The source is asked for the sum of the shares, unless that is zero. -/
theorem mem_asked_iff {ds : List Destination} {upper : UInt64} :
    upper ∈ s.asked ds ↔ 0 < upper ∧ upper = Destination.total ds := by
  rw [asked, Destination.asked_pick]
  by_cases nothing : Destination.total ds = 0
  · simp [nothing, UInt64.pos_iff_ne_zero]
  · simp only [if_neg nothing, Option.toList_some, List.mem_singleton, UInt64.pos_iff_ne_zero]
    exact ⟨fun same => ⟨same ▸ nothing, same⟩, fun both => both.2⟩

theorem length_asked_le {ds : List Destination} : (s.asked ds).length ≤ 1 := by
  rw [asked, Destination.asked_pick]
  split
  · exact Nat.zero_le 1
  · exact Nat.le_refl 1

namespace Questioned

theorem sparing (questioned : s.Questioned input r) : r.trace.Sparing := by
  cases questioned with
  | forced _ _ asked =>
    rw [asked]
    exact ⟨Nat.zero_le 1, Nat.zero_le 1, Nat.zero_le 1, Nat.le_refl 1, .inr rfl⟩
  | barred _ asked one_read one_evaluation =>
    rw [asked]
    exact ⟨one_read, one_evaluation, Nat.zero_le 1, Nat.zero_le 1, .inl rfl⟩
  | chose _ one_read _ _ asked =>
    rw [asked]
    exact ⟨one_read, Nat.le_refl 1, length_asked_le, Nat.zero_le 1, .inl rfl⟩

/-- The source hears of the calls that are let choose. -/
theorem mem_draws_iff (questioned : s.Questioned input r) {upper : UInt64} :
    upper ∈ r.trace.draws ↔ ∃ campaign evaluation,
      input.evaluation campaign ∈ r.trace.evaluations ∧
      s.Evaluates input campaign (.ok evaluation) ∧ Permits input evaluation ∧
      0 < upper ∧ upper = Destination.total evaluation.destinations := by
  cases questioned with
  | forced _ _ asked =>
    rw [asked]
    simp
  | barred _ asked _ _ unpermitted =>
    -- the rules may have been evaluated, but then they keep the call from choosing
    rw [asked]
    constructor
    · intro drawn
      cases drawn
    · rintro ⟨campaign, evaluation, evaluated, evaluates, permits, -⟩
      exact absurd permits (unpermitted (List.ne_nil_of_mem evaluated) _ _ evaluates)
  | chose _ _ evaluates permits asked =>
    rw [asked]
    constructor
    · intro drawn
      exact ⟨_, _, List.mem_singleton_self _, evaluates, permits, mem_asked_iff.mp drawn⟩
    · rintro ⟨campaign, evaluation, -, evaluates', -, some_weight, sum⟩
      cases (evaluates.unique evaluates').2
      exact mem_asked_iff.mpr ⟨some_weight, sum⟩

/-- With a source that keeps to its bounds, a call chooses if it asks the source. -/
theorem chosen_iff (questioned : s.Questioned input r) (honest : AnswersBelow s.answer) :
    r.Chosen ↔ r.trace.draws ≠ [] := by
  cases questioned with
  | forced _ decided asked =>
    rw [asked]
    refine ⟨?_, fun drawn => absurd rfl drawn⟩
    rintro ⟨d, target, decided', -, reason⟩
    cases decided.symm.trans decided'
    rcases reason with none | none <;> cases none
  | barred _ asked _ _ _ refused =>
    rw [asked]
    exact ⟨fun chosen => absurd chosen refused.not_chosen, fun drawn => absurd rfl drawn⟩
  | @chose _ _ evaluation _ _ _ _ asked _ chosen =>
    -- a source that is asked finds a destination only because it keeps to its bound
    rw [chosen, asked]
    constructor
    · rintro ⟨d, picked⟩ undrawn
      have nothing : Destination.total evaluation.destinations = 0 := by
        simpa [Surroundings.asked, Destination.asked_pick] using undrawn
      simp [picked?, Destination.destination?_pick, nothing] at picked
    · intro drawn
      obtain ⟨upper, mem⟩ := List.exists_mem_of_ne_nil _ drawn
      obtain ⟨some_weight, rfl⟩ := mem_asked_iff.mp mem
      exact Destination.exists_picked_of_total_pos honest some_weight

/-- The audit trail hears of the calls that are forced. -/
theorem events_ne_nil_iff (questioned : s.Questioned input r) :
    r.trace.events ≠ [] ↔ s.Forced input := by
  cases questioned with
  | forced forced _ asked =>
    rw [asked]
    exact ⟨fun _ => forced, fun _ => List.cons_ne_nil _ _⟩
  | barred unforced asked | chose unforced _ _ _ asked =>
    rw [asked]
    exact ⟨fun some => absurd rfl some, fun forced => absurd forced unforced⟩

/-- The calls that are forced are those that are connected without a reason. -/
theorem forced_iff (questioned : s.Questioned input r) :
    s.Forced input ↔
      ∃ target, r.answer = .ok ⟨input.workspaceId, input.campaign?, .connect target, none⟩ := by
  cases questioned with
  | forced forced decided => exact ⟨fun _ => ⟨_, decided⟩, fun _ => forced⟩
  | barred unforced _ _ _ _ refused =>
    refine ⟨fun forced => absurd forced unforced, ?_⟩
    rintro ⟨target, connected⟩
    obtain ⟨reason, rejects⟩ := refused _ connected
    cases rejects
  | chose unforced _ _ _ _ decided =>
    refine ⟨fun forced => absurd forced unforced, ?_⟩
    rintro ⟨target, connected⟩
    obtain ⟨d, decided, reasoned⟩ := decided
    cases connected.symm.trans decided
    exact absurd rfl reasoned

/-- Where routing fails, neither the audit trail nor the source has heard of the call. -/
theorem of_error {h : Halt RoutingError} (questioned : s.Questioned input r)
    (failed : r.answer = .error h) : r.trace.events = [] ∧ r.trace.draws = [] := by
  cases questioned with
  | forced _ decided => cases decided.symm.trans failed
  | barred _ asked => exact ⟨by rw [asked], by rw [asked]⟩
  | chose _ _ _ _ _ decided =>
    obtain ⟨d, decided, -⟩ := decided
    cases decided.symm.trans failed

end Questioned

/-- A call whose resolver fails asks nothing; any other call asks what its routing asks. -/
theorem asks_nothing_or_questioned (s : Surroundings) (q : RouteRequest) :
    (∃ e, q.input = .error e ∧ s.handle q = ⟨.error (.failed e), .empty⟩) ∨
      ∃ input, q.input = .ok input ∧ s.Questioned input (s.handle q) := by
  cases known : q.input with
  | error e => exact .inl ⟨e, rfl, handle_of_error known⟩
  | ok input =>
    refine .inr ⟨input, rfl, ?_⟩
    rw [handle_of_ok known]
    exact questioned_of_ends (s.ends_route input)

theorem chosen_handle_iff (honest : AnswersBelow s.answer) :
    (s.handle q).Chosen ↔ (s.handle q).trace.draws ≠ [] := by
  rcases s.asks_nothing_or_questioned q with ⟨e, -, nothing⟩ | ⟨input, -, questioned⟩
  · rw [nothing]
    exact ⟨fun chosen => absurd chosen Routed.refused_of_error.not_chosen, fun drawn => absurd rfl drawn⟩
  · exact questioned.chosen_iff honest

theorem sparing_handle (s : Surroundings) (q : RouteRequest) : (s.handle q).trace.Sparing := by
  rcases s.asks_nothing_or_questioned q with ⟨e, -, nothing⟩ | ⟨input, -, questioned⟩
  · rw [nothing]
    exact RouteTrace.sparing_empty
  · exact questioned.sparing

end Surroundings

/-! ### One request -/

namespace Exchange

/-- Carries out the reads of some balances in a ledger, one after the other. -/
def readAll (l : Ledger) (keys : List WalletKey) : Ledger :=
  keys.foldl (fun l key => (Ledger.deskAfter (Ledger.balance key) (.of l)).ledger) l

/-- Reading balances leaves a ledger as it was: its books and its armed fail points. -/
theorem readAll_eq (l : Ledger) (keys : List WalletKey) : readAll l keys = l := by
  induction keys with
  | nil => rfl
  | cons key keys ih =>
    have kept : (Ledger.deskAfter (Ledger.balance key) (.of l)).ledger = l :=
      (Ledger.quiet_balance.kept (.of l)).1
    rw [readAll, List.foldl_cons, kept]
    exact ih

/-- What routing does to an exchange, and what it has asked, whatever is connected to it. -/
structure Frugal (x : Exchange) (s : Surroundings) (q : RouteRequest) : Prop where
  /-- Nothing changes but the audit trail and the random source, and these by what they are asked. -/
  kept : (x.finish (s.handle q)).2 =
    { x with
      trail := x.trail.offerAll (x.handed (s.handle q).trace)
      source := x.source.after (s.handle q).trace.draws }
  /-- Nor do the reads of balances change the ledger that they are made in. -/
  read : readAll x.ledger (s.handle q).trace.balanceReads = x.ledger
  /-- Nobody is asked more than once, and the sink and the source are not both called. -/
  sparing : (s.handle q).trace.balanceReads.length ≤ 1 ∧
    (s.handle q).trace.evaluations.length ≤ 1 ∧ (s.handle q).trace.draws.length ≤ 1 ∧
    (x.handed (s.handle q).trace).length ≤ 1 ∧
    (x.handed (s.handle q).trace = [] ∨ (s.handle q).trace.draws = [])
  /-- The sink hears of a call that an override has decided, and of no other. -/
  told : x.handed (s.handle q).trace ≠ [] ↔
    x.trail.sink.isSome = true ∧ ∃ input, q.input = .ok input ∧ s.Forced input
  /-- These are the calls that are connected without a reason. -/
  forced : ∀ input, q.input = .ok input → (s.Forced input ↔ ∃ target, (s.handle q).answer =
    .ok ⟨input.workspaceId, input.campaign?, .connect target, none⟩)
  /-- The source is asked if the rules have been evaluated and let the call choose, and if there is
  some weight to choose by. -/
  drew : ∀ upper, upper ∈ (s.handle q).trace.draws ↔
    ∃ input campaign evaluation, q.input = .ok input ∧
      input.evaluation campaign ∈ (s.handle q).trace.evaluations ∧
      s.Evaluates input campaign (.ok evaluation) ∧
      (evaluation.allowed = true ∨ input.isPrivileged = true) ∧
      0 < upper ∧ upper = Destination.total evaluation.destinations
  /-- That weight is the exact sum of the positive weights, unless there are too many. -/
  weight : ∀ input campaign evaluation, s.Evaluates input campaign (.ok evaluation) →
    Destination.Few evaluation.destinations →
      (Destination.total evaluation.destinations).toNat =
        Destination.weightSum evaluation.destinations
  /-- Where routing fails, neither the sink nor the source hears of the call. -/
  failed : ∀ h, (s.handle q).answer = .error h →
    x.handed (s.handle q).trace = [] ∧ (s.handle q).trace.draws = []
  /-- Where the resolver fails or names no role, nobody does, whatever override is in force. -/
  unresolved : ∀ e, q.input = .error e → s.handle q = ⟨.error (.failed e), .empty⟩

theorem handed_ne_nil_iff {x : Exchange} {t : RouteTrace} :
    x.handed t ≠ [] ↔ x.trail.sink.isSome = true ∧ t.events ≠ [] := by
  unfold handed
  by_cases wired : x.trail.sink.isSome = true
  · simp [wired]
  · simp [wired]

theorem length_handed_le {x : Exchange} {t : RouteTrace} :
    (x.handed t).length ≤ t.events.length := by
  unfold handed
  split
  · rw [List.length_map]
  · exact Nat.zero_le _

theorem handed_of_events_eq_nil {x : Exchange} {t : RouteTrace} (untold : t.events = []) :
    x.handed t = [] := by
  rw [handed, untold, List.map_nil, ite_self]

theorem next_finish_eq (x : Exchange) (r : Routed Decision) :
    (x.finish r).2 =
      { x with
        trail := x.trail.offerAll (x.handed r.trace), source := x.source.after r.trace.draws } := by
  rw [next_finish, ← trail_settle]
  rfl

/-- A call asks no more of an exchange than it needs. -/
theorem frugal (x : Exchange) (s : Surroundings) (q : RouteRequest) : x.Frugal s q where
  kept := next_finish_eq x _
  read := readAll_eq _ _
  sparing := by
    have sparing := s.sparing_handle q
    exact ⟨sparing.one_read, sparing.one_evaluation, sparing.one_draw,
      length_handed_le.trans sparing.one_event, sparing.apart.imp_left handed_of_events_eq_nil⟩
  told := by
    rw [handed_ne_nil_iff]
    refine and_congr_right fun _ => ?_
    rcases s.asks_nothing_or_questioned q with ⟨e, unknown, nothing⟩ | ⟨input, known, questioned⟩
    · simp [unknown, nothing, RouteTrace.empty]
    · simp [known, questioned.events_ne_nil_iff]
  forced input known := by
    have questioned := Surroundings.questioned_of_ends (s.ends_route input)
    rw [Surroundings.handle_of_ok known]
    exact questioned.forced_iff
  drew upper := by
    rcases s.asks_nothing_or_questioned q with ⟨e, unknown, nothing⟩ | ⟨input, known, questioned⟩
    · simp [unknown, nothing, RouteTrace.empty]
    · rw [questioned.mem_draws_iff]
      simp [known, Surroundings.Permits]
  weight input campaign evaluation _ few := few.toNat_total
  failed h failed := by
    rcases s.asks_nothing_or_questioned q with ⟨e, -, nothing⟩ | ⟨input, -, questioned⟩
    · rw [nothing]
      exact ⟨handed_of_events_eq_nil rfl, rfl⟩
    · obtain ⟨untold, undrawn⟩ := questioned.of_error failed
      exact ⟨handed_of_events_eq_nil untold, undrawn⟩
  unresolved e unknown := Surroundings.handle_of_error unknown

end Exchange

end CallExchange
