import CallExchange.Routing.Route

/-!
# How the routing of a call ends

Routing stops at the first stage with a decision or an error. This module says once how each stage
can end, with what has been asked of the collaborators by then, so that later arguments split on the
end of a stage and not on the program.

## Main definitions

* `Surroundings.InForce`, `Surroundings.Unforced` — an override is in force for a call, or none is
* `Surroundings.Passes`, `Surroundings.Ordinary` — the override stage lets a call go on, and its
  role is not privileged
* `Surroundings.Cleared` — the balance gate lets a call through
* `Surroundings.Overruled`, `Surroundings.Bypassed`, `Surroundings.Barred`, `Surroundings.Judged` —
  the ends of the stages
* `Surroundings.Ends` — the ends of routing

## Main results

* `route_of_passes`, `route_of_ordinary` — routing from the override stage on, and from the gate on
* `ends_route` — routing comes to one of its ends
-/

namespace CallExchange

open Text

namespace RouteInput

/-- The campaign of a call; a blank one is none. -/
abbrev campaign? (input : RouteInput) : Option String := present input.campaignId

/-- The estimated cost that the balance gate has to see covered. -/
abbrev charge? (input : RouteInput) : Option Minor := input.estimatedCost.filter (0 < ·)

/-- The role of a call that campaign and wallet rules cannot block. -/
abbrev isPrivileged (input : RouteInput) : Bool := input.actorRole.any Role.isPrivileged

/-- The evaluator's call for a campaign. -/
abbrev evaluation (input : RouteInput) (campaign : String) : EvaluatorCall :=
  ⟨input.workspaceId, campaign, input.inbound.providerCallId⟩

end RouteInput

/-- What a computation leaves behind that has asked before. -/
def RouteM.routedFrom {α : Type} (t : RouteTrace) (m : RouteM α) : Routed α :=
  match m.run t with
  | .ok a t => ⟨.ok a, t⟩
  | .error e t => ⟨.error e, t⟩

/-- The trace of a call that has read balances and asked for nothing else. -/
def RouteTrace.ofReads (reads : List WalletKey) : RouteTrace := ⟨reads, [], [], []⟩

namespace Surroundings

variable {s : Surroundings} {input : RouteInput} {o : Override} {lookup : OverrideLookup}
  {cost : Minor} {walletId currency : String} {read : BalanceReader} {reads : List WalletKey}
  {t : RouteTrace} {campaign : String} {evaluation : Evaluation}

/-! ### What the stages find -/

/-- The override stage finds an override that has not expired. -/
def InForce (s : Surroundings) (input : RouteInput) (o : Override) : Prop :=
  ∃ lookup, s.overrides = some lookup ∧
    lookup input.workspaceId input.campaign? input.inbound s.now = .ok (some o) ∧
    o.IsActive s.now

/-- The override stage, if there is one, finds nothing but perhaps an override that has expired. -/
def Unforced (s : Surroundings) (input : RouteInput) : Prop :=
  ∀ lookup, s.overrides = some lookup →
    ∃ found, lookup input.workspaceId input.campaign? input.inbound s.now = .ok found ∧
      ∀ o, found = some o → ¬o.IsActive s.now

/-- The call goes on to the stages that follow the override stage. -/
structure Passes (s : Surroundings) (input : RouteInput) : Prop where
  named : ¬IsBlank input.workspaceId
  unforced : s.Unforced input

/-- The call goes on to the balance gate. -/
structure Ordinary (s : Surroundings) (input : RouteInput) : Prop extends Passes s input where
  unprivileged : input.isPrivileged = false

/-- The balance gate has all that it needs to read a balance. -/
structure Asks (s : Surroundings) (input : RouteInput) (cost : Minor) (walletId currency : String)
    (read : BalanceReader) : Prop where
  charge : input.charge? = some cost
  balances : s.balances = some read
  wallet : present input.walletId = some walletId
  currency : present input.currency = some currency

/-- The balance gate lets the call through after some reads: there is nothing to charge, or the
balance is in the call's currency and not below the cost. -/
inductive Cleared (s : Surroundings) (input : RouteInput) : List WalletKey → Prop
  | free (gratis : input.charge? = none) : Cleared s input []
  | covered {cost : Minor} {walletId currency : String} {read : BalanceReader} {b : Balance}
      (asks : s.Asks input cost walletId currency read)
      (balance : read ⟨input.workspaceId, walletId⟩ = .ok b) (same : b.currency = currency)
      (funds : cost ≤ b.amount) : Cleared s input [⟨input.workspaceId, walletId⟩]

/-- The evaluator answers for the campaign of the call. -/
def Evaluates (s : Surroundings) (input : RouteInput) (campaign : String)
    (answer : Except String Evaluation) : Prop :=
  input.campaign? = some campaign ∧ ∃ evaluator, s.campaigns = some evaluator ∧
    evaluator input.workspaceId campaign input.inbound = answer

/-- The destination that the random source picks. -/
abbrev picked? (s : Surroundings) (ds : List Destination) : Option Destination :=
  (Destination.pick ds s.answer).destination? ds

/-- What the random source is asked for a pick. -/
abbrev asked (s : Surroundings) (ds : List Destination) : List UInt64 :=
  (Destination.pick ds s.answer).asked.toList

/-! ### The ends of the stages -/

/-- The override stage ends routing. -/
inductive Overruled (s : Surroundings) (input : RouteInput) : Routed Decision → Prop
  | failed {lookup : OverrideLookup} {words : String} (overrides : s.overrides = some lookup)
      (answer : lookup input.workspaceId input.campaign? input.inbound s.now = .error words) :
      Overruled s input ⟨.error (.failed (.overrideStore words)), .empty⟩
  | outside {o : Override} (inForce : s.InForce input o)
      (elsewhere : ¬o.Covers input.workspaceId input.campaign?) :
      Overruled s input ⟨.error (.failed (.overrideScopeMismatch o.overrideId)), .empty⟩
  | targetless {o : Override} (inForce : s.InForce input o)
      (covers : o.Covers input.workspaceId input.campaign?) (blank : IsBlank o.connectTo) :
      Overruled s input ⟨.error (.failed (.emptyOverrideTarget o.overrideId)), .empty⟩
  | forced {o : Override} (inForce : s.InForce input o)
      (covers : o.Covers input.workspaceId input.campaign?) (target : ¬IsBlank o.connectTo) :
      Overruled s input
        ⟨.ok (.connect input.workspaceId input.campaign? o.connectTo),
          ⟨[], [], [],
            [s.appliedEvent input.workspaceId input.campaign? input.inbound input.context o]⟩⟩

/-- A privileged call is connected, or there is nowhere to connect it to. -/
inductive Bypassed (s : Surroundings) (input : RouteInput) : Routed Decision → Prop
  | unserved (nobody : ∀ campaign answer, ¬s.Evaluates input campaign answer) :
      Bypassed s input
        ⟨.ok (.reject input.workspaceId input.campaign? .adminOverrideNoDestination), .empty⟩
  | failed {campaign words : String} (evaluates : s.Evaluates input campaign (.error words)) :
      Bypassed s input
        ⟨.ok (.reject input.workspaceId input.campaign? .adminOverrideNoDestination),
          ⟨[], [input.evaluation campaign], [], []⟩⟩
  | undelivered {campaign : String} {evaluation : Evaluation}
      (evaluates : s.Evaluates input campaign (.ok evaluation))
      (nothing : s.picked? evaluation.destinations = none) :
      Bypassed s input
        ⟨.ok (.reject input.workspaceId input.campaign? .adminOverrideNoDestination),
          ⟨[], [input.evaluation campaign], s.asked evaluation.destinations, []⟩⟩
  | connected {campaign : String} {evaluation : Evaluation} {d : Destination}
      (evaluates : s.Evaluates input campaign (.ok evaluation))
      (picked : s.picked? evaluation.destinations = some d) :
      Bypassed s input
        ⟨.ok ((Decision.connect input.workspaceId input.campaign? d.target).because .adminOverride),
          ⟨[], [input.evaluation campaign], s.asked evaluation.destinations, []⟩⟩

/-- The balance gate ends routing. -/
inductive Barred (s : Surroundings) (input : RouteInput) : Routed Decision → Prop
  | unwired {cost : Minor} (charge : input.charge? = some cost) (balances : s.balances = none) :
      Barred s input ⟨.error (.failed (.notConfigured .walletService)), .empty⟩
  | walletless {cost : Minor} {read : BalanceReader} (charge : input.charge? = some cost)
      (balances : s.balances = some read) (wallet : present input.walletId = none) :
      Barred s input ⟨.error (.failed (.missingWalletContext .walletId)), .empty⟩
  | currencyless {cost : Minor} {read : BalanceReader} {walletId : String}
      (charge : input.charge? = some cost) (balances : s.balances = some read)
      (wallet : present input.walletId = some walletId) (currency : present input.currency = none) :
      Barred s input ⟨.error (.failed (.missingWalletContext .currency)), .empty⟩
  | waiting {cost : Minor} {walletId currency : String} {read : BalanceReader}
      (asks : s.Asks input cost walletId currency read)
      (answer : read ⟨input.workspaceId, walletId⟩ = .error .waiting) :
      Barred s input ⟨.error .waiting, .ofReads [⟨input.workspaceId, walletId⟩]⟩
  | failed {cost : Minor} {walletId currency : String} {read : BalanceReader} {cause : WalletError}
      (asks : s.Asks input cost walletId currency read)
      (answer : read ⟨input.workspaceId, walletId⟩ = .error (.failed cause)) :
      Barred s input
        ⟨.error (.failed (.wallet cause)), .ofReads [⟨input.workspaceId, walletId⟩]⟩
  | foreign {cost : Minor} {walletId currency : String} {read : BalanceReader} {b : Balance}
      (asks : s.Asks input cost walletId currency read)
      (answer : read ⟨input.workspaceId, walletId⟩ = .ok b) (differs : b.currency ≠ currency) :
      Barred s input
        ⟨.ok (.reject input.workspaceId input.campaign? .walletCurrencyMismatch),
          .ofReads [⟨input.workspaceId, walletId⟩]⟩
  | short {cost : Minor} {walletId currency : String} {read : BalanceReader} {b : Balance}
      (asks : s.Asks input cost walletId currency read)
      (answer : read ⟨input.workspaceId, walletId⟩ = .ok b) (same : b.currency = currency)
      (lacks : b.amount < cost) :
      Barred s input
        ⟨.ok (.reject input.workspaceId input.campaign? .insufficientBalance),
          .ofReads [⟨input.workspaceId, walletId⟩]⟩

/-- The stages after the gate end routing, some balances having been read by then. -/
inductive Judged (s : Surroundings) (input : RouteInput) (reads : List WalletKey) :
    Routed Decision → Prop
  | campaignless (nothing : input.campaign? = none) :
      Judged s input reads
        ⟨.ok (.reject input.workspaceId none .campaignIdRequired), .ofReads reads⟩
  | unwired {campaign : String} (named : input.campaign? = some campaign)
      (campaigns : s.campaigns = none) :
      Judged s input reads
        ⟨.error (.failed (.notConfigured .campaignEvaluator)), .ofReads reads⟩
  | failed {campaign words : String} (evaluates : s.Evaluates input campaign (.error words)) :
      Judged s input reads
        ⟨.error (.failed (.campaign words)), ⟨reads, [input.evaluation campaign], [], []⟩⟩
  | denied {campaign : String} {evaluation : Evaluation}
      (evaluates : s.Evaluates input campaign (.ok evaluation))
      (refuses : evaluation.allowed = false) :
      Judged s input reads
        ⟨.ok (.reject input.workspaceId input.campaign? (.denied evaluation.reason)),
          ⟨reads, [input.evaluation campaign], [], []⟩⟩
  | undelivered {campaign : String} {evaluation : Evaluation}
      (evaluates : s.Evaluates input campaign (.ok evaluation))
      (allows : evaluation.allowed = true)
      (nothing : s.picked? evaluation.destinations = none) :
      Judged s input reads
        ⟨.ok (.reject input.workspaceId input.campaign? .noEligibleDestination),
          ⟨reads, [input.evaluation campaign], s.asked evaluation.destinations, []⟩⟩
  | selected {campaign : String} {evaluation : Evaluation} {d : Destination}
      (evaluates : s.Evaluates input campaign (.ok evaluation))
      (allows : evaluation.allowed = true)
      (picked : s.picked? evaluation.destinations = some d) :
      Judged s input reads
        ⟨.ok ((Decision.connect input.workspaceId input.campaign? d.target).because .selected),
          ⟨reads, [input.evaluation campaign], s.asked evaluation.destinations, []⟩⟩

/-- The ends of routing, by the stage that ends it. -/
inductive Ends (s : Surroundings) (input : RouteInput) (r : Routed Decision) : Prop
  | nameless (blank : IsBlank input.workspaceId)
      (missing : r = ⟨.error (.failed .missingWorkspace), .empty⟩)
  | overruled (named : ¬IsBlank input.workspaceId) (overruled : s.Overruled input r)
  | bypassed (passes : s.Passes input) (privileged : input.isPrivileged = true)
      (bypassed : s.Bypassed input r)
  | barred (ordinary : s.Ordinary input) (barred : s.Barred input r)
  | judged {reads : List WalletKey} (ordinary : s.Ordinary input)
      (cleared : s.Cleared input reads) (judged : s.Judged input reads r)

/-! ### Stage by stage -/

@[simp] theorem run_failIf {c : Prop} [Decidable c] {e : RoutingError} :
    (failIf c e).run t = if c then .error (.failed e) t else .ok () t := by
  unfold failIf
  split <;> rfl

@[simp] theorem run_pick {ds : List Destination} :
    (s.pick ds).run t = .ok (s.picked? ds) { t with draws := t.draws ++ s.asked ds } := rfl

@[simp] theorem run_evaluate {evaluator : CampaignEvaluator} {campaign : String} :
    (evaluate evaluator input.workspaceId campaign input.inbound).run t =
      .ok (evaluator input.workspaceId campaign input.inbound)
        { t with evaluations := t.evaluations ++ [input.evaluation campaign] } := rfl

/-- The override stage, whatever the lookup answers. -/
theorem run_override? (s : Surroundings) (lookup : OverrideLookup) (t : RouteTrace)
    {workspaceId : String} (named : ¬IsBlank workspaceId) (campaignId : Option String)
    (call : InboundCall) (context : CallContext) :
    (s.override? lookup workspaceId campaignId call context).run t =
      match lookup workspaceId campaignId call s.now with
      | .error words => .error (.failed (.overrideStore words)) t
      | .ok none => .ok none t
      | .ok (some o) =>
        if ¬o.IsActive s.now then .ok none t
        else if ¬o.Covers workspaceId campaignId then
          .error (.failed (.overrideScopeMismatch o.overrideId)) t
        else if isBlank o.connectTo then .error (.failed (.emptyOverrideTarget o.overrideId)) t
        else .ok (some (.connect workspaceId campaignId o.connectTo))
          { t with events := t.events ++
            [s.appliedEvent workspaceId campaignId call context o] } := by
  simp only [override?, EStateM.run_bind, run_failIf, named]
  cases lookup workspaceId campaignId call s.now with
  | error words => rfl
  | ok found =>
    cases found with
    | none => rfl
    | some o =>
      by_cases active : o.IsActive s.now
      · by_cases covers : o.Covers workspaceId campaignId
        · by_cases blank : isBlank o.connectTo
          · simp [active, applied, EStateM.run_bind, covers, blank]
          · simp only [active, applied, EStateM.run_bind, run_failIf, covers, blank,
              not_true_eq_false, if_false]
            rfl
        · simp [active, applied, EStateM.run_bind, covers]
      · simp [active]

/-- A call that the override stage lets pass is routed by the stages that follow. -/
theorem route_of_passes (passes : s.Passes input) :
    s.route input = (s.decideOrdinary input input.campaign?).routed := by
  simp only [route, RouteM.routed, decide, EStateM.run_bind, run_failIf, passes.named]
  cases overrides : s.overrides with
  | none => rfl
  | some lookup =>
    obtain ⟨found, answer, expired⟩ := passes.unforced lookup overrides
    have run := run_override? s lookup .empty passes.named input.campaign? input.inbound
      input.context
    simp only [answer] at run
    simp only [EStateM.run_bind, run, if_false]
    cases found with
    | none => rfl
    | some o =>
      simp only [expired o rfl, not_false_eq_true, if_true]

/-- A call that names its workspace passes the override stage or ends there. -/
theorem unforced_or_overruled (named : ¬IsBlank input.workspaceId) :
    s.Unforced input ∨ s.Overruled input (s.route input) := by
  cases overrides : s.overrides with
  | none => exact .inl fun lookup some => by cases overrides.symm.trans some
  | some lookup =>
    have run := run_override? s lookup .empty named input.campaign? input.inbound input.context
    simp only [route, RouteM.routed, decide, EStateM.run_bind, run_failIf, named, overrides]
    simp only [run, if_false]
    cases answer : lookup input.workspaceId input.campaign? input.inbound s.now with
    | error words => exact .inr (.failed overrides answer)
    | ok found =>
      -- nothing is found, or only what has expired
      have pass (expired : ∀ o, found = some o → ¬o.IsActive s.now) : s.Unforced input := by
        intro l some
        cases overrides.symm.trans some
        exact ⟨found, answer, expired⟩
      cases found with
      | none => exact .inl (pass fun _ some => by cases some)
      | some o =>
        by_cases active : o.IsActive s.now
        · have inForce : s.InForce input o := ⟨lookup, overrides, answer, active⟩
          refine .inr ?_
          by_cases covers : o.Covers input.workspaceId input.campaign?
          · by_cases blank : isBlank o.connectTo
            · simp only [active, covers, blank, not_true_eq_false, if_false, if_true]
              exact .targetless inForce covers blank
            · simp only [active, covers, blank, not_true_eq_false, if_false]
              exact .forced inForce covers blank
          · simp only [active, covers, not_true_eq_false, not_false_eq_true, if_false, if_true]
            exact .outside inForce covers
        · exact .inl (pass fun _ some => by cases some; exact active)

theorem InForce.not_unforced (inForce : s.InForce input o) : ¬s.Unforced input := by
  obtain ⟨lookup, overrides, answer, active⟩ := inForce
  intro unforced
  obtain ⟨found, same, expired⟩ := unforced lookup overrides
  cases answer.symm.trans same
  exact expired o rfl active

theorem InForce.unique {p : Override} (inForce : s.InForce input o) (other : s.InForce input p) :
    o = p := by
  obtain ⟨lookup, overrides, answer, -⟩ := inForce
  obtain ⟨lookup', overrides', answer', -⟩ := other
  cases overrides.symm.trans overrides'
  cases answer.symm.trans answer'
  rfl

theorem Asks.unique {cost' : Minor} {walletId' currency' : String} {read' : BalanceReader}
    (asks : s.Asks input cost walletId currency read)
    (other : s.Asks input cost' walletId' currency' read') :
    cost = cost' ∧ walletId = walletId' ∧ currency = currency' ∧ read = read' := by
  cases asks.charge.symm.trans other.charge
  cases asks.wallet.symm.trans other.wallet
  cases asks.currency.symm.trans other.currency
  cases asks.balances.symm.trans other.balances
  exact ⟨rfl, rfl, rfl, rfl⟩

theorem Evaluates.unique {campaign' : String} {answer answer' : Except String Evaluation}
    (evaluates : s.Evaluates input campaign answer)
    (other : s.Evaluates input campaign' answer') : campaign = campaign' ∧ answer = answer' := by
  obtain ⟨named, evaluator, campaigns, rfl⟩ := evaluates
  obtain ⟨named', evaluator', campaigns', rfl⟩ := other
  cases named.symm.trans named'
  cases campaigns.symm.trans campaigns'
  exact ⟨rfl, rfl⟩

/-- An override in force that covers the call decides it. -/
theorem route_of_inForce (named : ¬IsBlank input.workspaceId) (inForce : s.InForce input o)
    (covers : o.Covers input.workspaceId input.campaign?) :
    s.route input =
      if isBlank o.connectTo then ⟨.error (.failed (.emptyOverrideTarget o.overrideId)), .empty⟩
      else ⟨.ok (.connect input.workspaceId input.campaign? o.connectTo),
        ⟨[], [], [],
          [s.appliedEvent input.workspaceId input.campaign? input.inbound input.context o]⟩⟩ := by
  have overruled := (unforced_or_overruled named).resolve_left inForce.not_unforced
  generalize s.route input = r at overruled ⊢
  cases overruled with
  | failed overrides failure =>
    obtain ⟨lookup, overrides', answer, -⟩ := inForce
    cases overrides.symm.trans overrides'
    cases failure.symm.trans answer
  | outside other elsewhere =>
    cases inForce.unique other
    exact absurd covers elsewhere
  | targetless other _ blank =>
    cases inForce.unique other
    rw [if_pos blank]
  | forced other _ target =>
    cases inForce.unique other
    rw [if_neg target]

/-! ### Privileged calls -/

/-- A privileged call that passes the override stage is routed by its bypass. -/
theorem route_of_privileged (passes : s.Passes input) (privileged : input.isPrivileged = true) :
    s.route input = (s.privileged input.workspaceId input.campaign? input.inbound).routed := by
  rw [route_of_passes passes, decideOrdinary, if_pos privileged]

/-- A privileged call for whose campaign nobody answers. -/
theorem routed_privileged_of_nobody
    (nobody : ∀ campaign answer, ¬s.Evaluates input campaign answer) :
    (s.privileged input.workspaceId input.campaign? input.inbound).routed =
      ⟨.ok (.reject input.workspaceId input.campaign? .adminOverrideNoDestination), .empty⟩ := by
  cases named : input.campaign? with
  | none => simp only [privileged]; rfl
  | some campaign =>
    cases campaigns : s.campaigns with
    | none => simp only [privileged, campaigns]; rfl
    | some evaluator => exact (nobody campaign _ ⟨named, evaluator, campaigns, rfl⟩).elim

theorem routed_privileged_of_error {words : String}
    (evaluates : s.Evaluates input campaign (.error words)) :
    (s.privileged input.workspaceId input.campaign? input.inbound).routed =
      ⟨.ok (.reject input.workspaceId input.campaign? .adminOverrideNoDestination),
        ⟨[], [input.evaluation campaign], [], []⟩⟩ := by
  obtain ⟨named, evaluator, campaigns, answers⟩ := evaluates
  simp only [privileged, RouteM.routed, named, campaigns, EStateM.run_bind, run_evaluate, answers]
  rfl

/-- A privileged call for whose campaign the evaluator gives destinations. -/
theorem routed_privileged_of_ok (evaluates : s.Evaluates input campaign (.ok evaluation)) :
    (s.privileged input.workspaceId input.campaign? input.inbound).routed =
      ⟨.ok (match s.picked? evaluation.destinations with
        | some d =>
          (Decision.connect input.workspaceId input.campaign? d.target).because .adminOverride
        | none => .reject input.workspaceId input.campaign? .adminOverrideNoDestination),
        ⟨[], [input.evaluation campaign], s.asked evaluation.destinations, []⟩⟩ := by
  obtain ⟨named, evaluator, campaigns, answers⟩ := evaluates
  simp only [privileged, RouteM.routed, named, campaigns, EStateM.run_bind, run_evaluate, answers,
    run_pick]
  cases s.picked? evaluation.destinations <;> rfl

/-- A privileged call that passes the override stage is connected, or there is nowhere to. -/
theorem bypassed_of_privileged (passes : s.Passes input) (privileged : input.isPrivileged = true) :
    s.Bypassed input (s.route input) := by
  rw [route_of_privileged passes privileged]
  by_cases answered : ∃ campaign answer, s.Evaluates input campaign answer
  · obtain ⟨campaign, answer, evaluates⟩ := answered
    cases answer with
    | error words =>
      rw [routed_privileged_of_error evaluates]
      exact .failed evaluates
    | ok evaluation =>
      rw [routed_privileged_of_ok evaluates]
      cases picked : s.picked? evaluation.destinations with
      | none => exact .undelivered evaluates picked
      | some d => exact .connected evaluates picked
  · have nobody : ∀ campaign answer, ¬s.Evaluates input campaign answer :=
      fun campaign answer evaluates => answered ⟨campaign, answer, evaluates⟩
    rw [routed_privileged_of_nobody nobody]
    exact .unserved nobody

/-! ### The stages after the gate -/

/-- The stages after the gate decide on their own, some balances having been read by then. -/
theorem judged_afterGate :
    s.Judged input reads ((s.afterGate input.workspaceId input.campaign? input.inbound).routedFrom
      (.ofReads reads)) := by
  cases named : input.campaign? with
  | none => exact .campaignless named
  | some campaign =>
    cases campaigns : s.campaigns with
    | none =>
      simp only [afterGate, campaigns]
      exact .unwired named campaigns
    | some evaluator =>
      simp only [afterGate, RouteM.routedFrom, campaigns, EStateM.run_bind, run_evaluate]
      cases answer : evaluator input.workspaceId campaign input.inbound with
      | error words => exact .failed ⟨named, evaluator, campaigns, answer⟩
      | ok evaluation =>
        have evaluates : s.Evaluates input campaign (.ok evaluation) :=
          ⟨named, evaluator, campaigns, answer⟩
        rw [← named]
        by_cases allows : evaluation.allowed = true
        · simp only [allows, if_true, select, EStateM.run_bind, run_pick]
          cases picked : s.picked? evaluation.destinations with
          | none => exact .undelivered evaluates allows picked
          | some d => exact .selected evaluates allows picked
        · simp only [allows]
          exact .denied evaluates (by simpa using allows)

/-- An ordinary call that the evaluator allows goes to the destination that is picked. -/
theorem routedFrom_afterGate_of_allowed (evaluates : s.Evaluates input campaign (.ok evaluation))
    (allows : evaluation.allowed = true) :
    ((s.afterGate input.workspaceId input.campaign? input.inbound).routedFrom t).answer =
      .ok (match s.picked? evaluation.destinations with
        | some d => (Decision.connect input.workspaceId input.campaign? d.target).because .selected
        | none => .reject input.workspaceId input.campaign? .noEligibleDestination) := by
  obtain ⟨named, evaluator, campaigns, answers⟩ := evaluates
  simp only [afterGate, RouteM.routedFrom, named, campaigns, EStateM.run_bind, run_evaluate, answers,
    allows, if_true, select, run_pick]
  cases s.picked? evaluation.destinations <;> rfl

/-! ### The balance gate -/

theorem shortfall_eq_none_iff {b : Balance} :
    shortfall? b cost currency = none ↔ b.currency = currency ∧ cost ≤ b.amount := by
  unfold shortfall?
  by_cases same : b.currency = currency
  · by_cases lacks : b.amount < cost
    · simp [same, lacks, Int64.not_le]
    · simp [same, lacks, Int64.not_lt.mp lacks]
  · simp [same]

/-- An ordinary call is routed by the gate and, if the gate lets it through, by what follows. -/
theorem route_of_ordinary (ordinary : s.Ordinary input) :
    s.route input =
      match (s.rejection? input).run .empty with
      | .error e t => ⟨.error e, t⟩
      | .ok (some reason) t => ⟨.ok (.reject input.workspaceId input.campaign? reason), t⟩
      | .ok none t =>
        (s.afterGate input.workspaceId input.campaign? input.inbound).routedFrom t := by
  rw [route_of_passes ordinary.toPasses, decideOrdinary,
    if_neg (by simp [ordinary.unprivileged]), RouteM.routed, EStateM.run_bind]
  cases (s.rejection? input).run .empty with
  | error e t => rfl
  | ok reason t => cases reason <;> rfl

/-- The gate reads one balance and compares it with the cost. -/
theorem run_rejection?_of_asks (asks : s.Asks input cost walletId currency read) :
    (s.rejection? input).run .empty =
      match read ⟨input.workspaceId, walletId⟩ with
      | .error .waiting => .error .waiting (.ofReads [⟨input.workspaceId, walletId⟩])
      | .error (.failed cause) =>
        .error (.failed (.wallet cause)) (.ofReads [⟨input.workspaceId, walletId⟩])
      | .ok b => .ok (shortfall? b cost currency) (.ofReads [⟨input.workspaceId, walletId⟩]) := by
  simp only [rejection?, asks.charge, gate, asks.balances, asks.wallet, asks.currency,
    EStateM.run_bind]
  cases read ⟨input.workspaceId, walletId⟩ with
  | ok b => rfl
  | error halt => cases halt <;> rfl

/-- A gate that lets a call through has nothing to say. -/
theorem run_rejection?_of_cleared (cleared : s.Cleared input reads) :
    (s.rejection? input).run .empty = .ok none (.ofReads reads) := by
  cases cleared with
  | free gratis =>
    simp only [rejection?, gratis]
    rfl
  | covered asks balance same funds =>
    rw [run_rejection?_of_asks asks, balance]
    simp only [shortfall_eq_none_iff.mpr ⟨same, funds⟩]

/-- The gate ends the routing of an ordinary call, or lets it through. -/
theorem barred_or_cleared (ordinary : s.Ordinary input) :
    s.Barred input (s.route input) ∨
      ∃ reads, s.Cleared input reads ∧
        s.route input = (s.afterGate input.workspaceId input.campaign? input.inbound).routedFrom
          (.ofReads reads) := by
  rw [route_of_ordinary ordinary]
  cases charge : input.charge? with
  | none =>
    simp only [rejection?, charge]
    exact .inr ⟨[], .free charge, rfl⟩
  | some cost =>
    cases balances : s.balances with
    | none =>
      simp only [rejection?, charge, gate, balances]
      exact .inl (.unwired charge balances)
    | some read =>
      cases wallet : present input.walletId with
      | none =>
        simp only [rejection?, charge, gate, balances, wallet]
        exact .inl (.walletless charge balances wallet)
      | some walletId =>
        cases currency : present input.currency with
        | none =>
          simp only [rejection?, charge, gate, balances, wallet, currency]
          exact .inl (.currencyless charge balances wallet currency)
        | some currency' =>
          have asks : s.Asks input cost walletId currency' read :=
            ⟨charge, balances, wallet, currency⟩
          simp only [run_rejection?_of_asks asks]
          cases answer : read ⟨input.workspaceId, walletId⟩ with
          | error halt =>
            cases halt with
            | waiting => exact .inl (.waiting asks answer)
            | failed cause => exact .inl (.failed asks answer)
          | ok b =>
            -- the currency is compared before the amount
            by_cases same : b.currency = currency'
            · by_cases lacks : b.amount < cost
              · simp only [shortfall?, same, lacks, ne_eq, not_true_eq_false, if_false, if_true]
                exact .inl (.short asks answer same lacks)
              · have funds : cost ≤ b.amount := Int64.not_lt.mp lacks
                simp only [shortfall_eq_none_iff.mpr ⟨same, funds⟩]
                exact .inr ⟨_, .covered asks answer same funds, rfl⟩
            · simp only [shortfall?, same, ne_eq, not_false_eq_true, if_true]
              exact .inl (.foreign asks answer same)

/-! ### All stages -/

/-- Routing comes to one of its ends. -/
theorem ends_route (s : Surroundings) (input : RouteInput) : s.Ends input (s.route input) := by
  by_cases named : IsBlank input.workspaceId
  · refine .nameless named ?_
    simp only [route, RouteM.routed, decide, EStateM.run_bind, run_failIf, named, if_true]
  rcases unforced_or_overruled (s := s) named with unforced | overruled
  · have passes : s.Passes input := ⟨named, unforced⟩
    cases privileged : input.isPrivileged with
    | true => exact .bypassed passes privileged (bypassed_of_privileged passes privileged)
    | false =>
      have ordinary : s.Ordinary input := ⟨passes, privileged⟩
      rcases barred_or_cleared ordinary with barred | ⟨reads, cleared, rest⟩
      · exact .barred ordinary barred
      · exact .judged ordinary cleared (rest ▸ judged_afterGate)
  · exact .overruled named overruled

end Surroundings

/-! ### A call for examples -/

/-- A call of a campaign, with a cost of 7. -/
def sampleCall : RouteInput where
  workspaceId := "acme"
  campaignId := some "summer"
  actorRole := some .agent
  walletId := some "main"
  estimatedCost := some 7
  currency := some "USD"
  inbound := ⟨"acme", "pc-1", "+15550100", "+15550199", none, none⟩
  context := ⟨none, some "u-1"⟩

/-- Surroundings with an evaluator, a balance of 10 for everybody, and a source that always answers
0. There is no override stage. -/
def sampleSurroundings : Surroundings where
  now := .start
  overrides := none
  balances := some fun key => .ok ⟨key.workspaceId, key.walletId, "USD", 10, .start⟩
  campaigns := some fun _ _ _ => .ok ⟨true, none, [⟨"sip:closed", 0⟩, ⟨"sip:front", 3⟩]⟩
  answer := fun _ => 0

end CallExchange
