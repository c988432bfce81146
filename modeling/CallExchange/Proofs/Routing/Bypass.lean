import CallExchange.Proofs.Routing.Ends
import CallExchange.Proofs.Routing.Pick

/-!
# Privileged calls

Once no override is in force, a call under a privileged role is either connected to a destination of
its campaign or rejected for want of one. Cost, wallet, balance, and the campaign's verdict have no
say in it: the call is routed alike whatever they are, down to what is asked of the collaborators.

## Main definitions

* `SameDestinations` — evaluators that differ in their verdicts only
* `Surroundings.Unblocked` — what a privileged role means for a call

## Main results

* `routed_privileged_congr` — balances and verdicts make no difference to the bypass
* `unblocked_of_privileged` — nothing but the want of a destination blocks a privileged call
-/

namespace CallExchange

open Text

/-- What an evaluator, if there is one, gives as destinations, unless it fails. -/
def offered (campaigns : Option CampaignEvaluator) (workspaceId campaignId : String)
    (call : InboundCall) : Option (Option (List Destination)) :=
  campaigns.map fun evaluator =>
    (evaluator workspaceId campaignId call).toOption.map (·.destinations)

/-- Both evaluators are absent, or they fail alike and give the same destinations, whatever their
verdicts and reasons. -/
def SameDestinations (a b : Option CampaignEvaluator) : Prop :=
  ∀ workspaceId campaignId call,
    offered a workspaceId campaignId call = offered b workspaceId campaignId call

namespace Surroundings

variable {s : Surroundings} {input : RouteInput} {balances : Option BalanceReader}
  {campaigns : Option CampaignEvaluator} {campaign : String} {evaluation : Evaluation}

/-- The bypass depends on the destinations only: not on balances, and not on verdicts. -/
theorem routed_privileged_congr (same : SameDestinations campaigns s.campaigns) :
    (({ s with balances, campaigns } : Surroundings).privileged input.workspaceId input.campaign?
      input.inbound).routed =
      (s.privileged input.workspaceId input.campaign? input.inbound).routed := by
  cases named : input.campaign? with
  | none => rfl
  | some campaign =>
    have alike := same input.workspaceId campaign input.inbound
    cases ours : s.campaigns with
    | none =>
      cases campaigns with
      | none => simp only [privileged, ours]
      | some _ => simp [offered, ours] at alike
    | some evaluator =>
      cases campaigns with
      | none => simp [offered, ours] at alike
      | some other =>
        simp only [offered, ours, Option.map_some, Option.some.injEq] at alike
        simp only [privileged, ours, RouteM.routed, EStateM.run_bind, run_evaluate]
        -- both fail, or both give the destinations from which one is picked
        cases mine : evaluator input.workspaceId campaign input.inbound with
        | error _ =>
          cases theirs : other input.workspaceId campaign input.inbound with
          | error _ => rfl
          | ok _ => simp [mine, theirs, Except.toOption] at alike
        | ok evaluation =>
          cases theirs : other input.workspaceId campaign input.inbound with
          | error _ => simp [mine, theirs, Except.toOption] at alike
          | ok evaluation' =>
            have delivers : evaluation'.destinations = evaluation.destinations := by
              simpa [mine, theirs, Except.toOption] using alike
            simp only [delivers]
            rfl

/-- What a privileged role means for a call. -/
structure Unblocked (s : Surroundings) (input : RouteInput) : Prop where
  decides : ∃ d, (s.route input).answer = .ok d
  /-- Cost, wallet, currency, balances, verdicts, and which of the privileged roles it is, change
  neither the decision nor what is asked of anybody. -/
  unchanged : ∀ (balances : Option BalanceReader) (campaigns : Option CampaignEvaluator)
    (role : Role) (walletId : Option String) (estimatedCost : Option Minor)
    (currency : Option String), SameDestinations campaigns s.campaigns → role.isPrivileged = true →
      ({ s with balances, campaigns } : Surroundings).route
        { input with actorRole := some role, walletId, estimatedCost, currency } = s.route input
  /-- A destination with a positive weight connects the call. -/
  connects : ∀ campaign evaluation, s.Evaluates input campaign (.ok evaluation) →
    (∃ d ∈ evaluation.destinations, 0 < d.weight) →
      ∃ d, s.picked? evaluation.destinations = some d ∧ (s.route input).answer =
        .ok ((Decision.connect input.workspaceId input.campaign? d.target).because .adminOverride)
  /-- The want of one is all that can reject it. -/
  rejects : (∀ campaign evaluation, s.Evaluates input campaign (.ok evaluation) →
      ¬∃ d ∈ evaluation.destinations, 0 < d.weight) →
    (s.route input).answer =
      .ok (.reject input.workspaceId input.campaign? .adminOverrideNoDestination)

/-- Nothing but the want of a destination blocks a privileged call. -/
theorem unblocked_of_privileged (passes : s.Passes input)
    (privileged : input.isPrivileged = true) (honest : AnswersBelow s.answer)
    (few : ∀ campaign evaluation, s.Evaluates input campaign (.ok evaluation) →
      Destination.Few evaluation.destinations) : s.Unblocked input where
  decides := by
    have bypassed := bypassed_of_privileged passes privileged
    generalize s.route input = r at bypassed ⊢
    cases bypassed with
    | unserved | failed | undelivered | connected => exact ⟨_, rfl⟩
  unchanged balances campaigns role walletId estimatedCost currency same still := by
    rw [route_of_privileged passes privileged]
    refine Eq.trans (route_of_privileged ⟨passes.named, passes.unforced⟩ still) ?_
    exact routed_privileged_congr same
  connects campaign evaluation evaluates eligible := by
    obtain ⟨d, picked⟩ : ∃ d, s.picked? evaluation.destinations = some d :=
      (Destination.exists_picked_iff (few campaign evaluation evaluates) honest).mpr eligible
    refine ⟨d, picked, ?_⟩
    rw [route_of_privileged passes privileged, routed_privileged_of_ok evaluates, picked]
  rejects nowhere := by
    have bypassed := bypassed_of_privileged passes privileged
    generalize s.route input = r at bypassed ⊢
    cases bypassed with
    | unserved | failed | undelivered => rfl
    | connected evaluates picked =>
      exact (nowhere _ _ evaluates ⟨_, Destination.eligible_of_picked picked⟩).elim

theorem unblocked_of_superAdmin :
    let input := { sampleCall with actorRole := some .superAdmin }
    sampleSurroundings.Passes input ∧ input.isPrivileged = true ∧
      sampleSurroundings.Unblocked input := by
  have passes : sampleSurroundings.Passes { sampleCall with actorRole := some .superAdmin } :=
    ⟨by decide, fun _ some => by cases some⟩
  refine ⟨passes, rfl, unblocked_of_privileged passes rfl (fun _ positive => positive) ?_⟩
  rintro campaign evaluation ⟨-, _, ⟨⟩, ⟨⟩⟩
  change 2 < 8589934592
  decide

end Surroundings

end CallExchange
