import CallExchange.Proofs.Routing.Proportion
import CallExchange.Proofs.Routing.Reasons
import CallExchange.Routing.Inbound

/-!
# Where a call can be connected to

The target of a connect is that of an override, or one of those that the evaluation of the campaign
offers. The target of an override is looked at, and a blank one is an error. The targets that an
evaluation offers are not looked at: each of them can be dialed, a blank one, too, and nothing else
makes routing connect a call to nothing.

## Main definitions

* `Surroundings.Picks` — a call gets as far as a pick from the destinations of an evaluation
* `Surroundings.Dials`, `Surroundings.DialsFor` — routing connects a call to a target, for itself and
  for a provider

## Main results

* `exists_answer_of_eligible` — every destination with a positive weight can be picked
* `connected_of_dials` — what a target that is dialed may be
* `dials_blank_iff` — a call can be connected to a blank target exactly when it is offered one
-/

namespace CallExchange

open Text

namespace Destination

variable {d : Destination} {ds : List Destination}

/-- Some source that keeps to its bounds picks a destination with a positive weight. -/
theorem exists_answer_of_eligible (few : Few ds) (listed : d ∈ ds) (positive : 0 < d.weight) :
    ∃ answer, AnswersBelow answer ∧ (pick ds answer).destination? ds = some d := by
  obtain ⟨i, place⟩ := List.getElem?_of_mem listed
  have weight : 0 < d.weight.toNatClampNeg := by
    rwa [← toNat_share_eq, share_pos_iff]
  have within := weightSum_take_add_le_weightSum place
  have small := few.weightSum_lt
  -- the share of the destination begins with a number that 64 bits hold
  obtain ⟨first, begins⟩ : ∃ first : UInt64, first.toNat = weightSum (ds.take i) :=
    ⟨.ofNat _, UInt64.toNat_ofNat_of_lt' (by omega)⟩
  refine ⟨fun upper => if upper = total ds then first else 0, ?_, ?_⟩
  · intro upper positive
    by_cases asked : upper = total ds
    · simp only [asked, if_true, UInt64.lt_iff_toNat_lt, few.toNat_total]
      omega
    · simpa only [asked, if_false] using positive
  · have found : (pick ds fun upper => if upper = total ds then first else 0).index = some i := by
      refine (index_pick_iff few).mpr ⟨d, place, ?_⟩
      simp only [if_true]
      omega
    rw [Pick.destination?, found, Option.bind_some, place]

end Destination

namespace Surroundings

variable {s : Surroundings} {input : RouteInput} {target : String} {evaluation : Evaluation}
  {d : Destination} {answer : UInt64 → UInt64} {r : Resolver} {call : InboundCall}
  {context : CallContext}

/-- The call gets as far as a pick from the destinations of an evaluation. -/
inductive Picks (s : Surroundings) (input : RouteInput) (evaluation : Evaluation) : Prop
  | privileged {campaign : String} (passes : s.Passes input)
      (privileged : input.isPrivileged = true)
      (evaluates : s.Evaluates input campaign (.ok evaluation))
  | ordinary {campaign : String} {reads : List WalletKey} (ordinary : s.Ordinary input)
      (cleared : s.Cleared input reads) (evaluates : s.Evaluates input campaign (.ok evaluation))
      (allows : evaluation.allowed = true)

theorem Picks.evaluates (picks : s.Picks input evaluation) :
    ∃ campaign, s.Evaluates input campaign (.ok evaluation) := by
  cases picks with
  | privileged _ _ evaluates => exact ⟨_, evaluates⟩
  | ordinary _ _ evaluates => exact ⟨_, evaluates⟩

/-- Routing connects the call to a target. -/
def Dials (s : Surroundings) (input : RouteInput) (target : String) : Prop :=
  ∃ decision, (s.route input).answer = .ok decision ∧ decision.connectTo = some target

/-- The provider of a call is told to connect it to a target. -/
def DialsFor (s : Surroundings) (r : Resolver) (call : InboundCall) (context : CallContext)
    (target : String) : Prop :=
  ∃ decision, (s.routeInbound r call context).answer = .ok decision ∧
    decision.toAnswer.connectTo = some target

/-- A provider is told what routing decides, once the resolver has found everything. -/
theorem dialsFor_iff :
    s.DialsFor r call context target ↔
      ∃ input, r.input call context = .ok input ∧ s.Dials input target := by
  unfold DialsFor routeInbound Dials
  cases r.input call context with
  | error e =>
    constructor
    · rintro ⟨_, answered, -⟩
      cases answered
    · rintro ⟨_, found, -⟩
      cases found
  | ok input =>
    constructor
    · intro told
      exact ⟨input, rfl, told⟩
    · rintro ⟨_, found, dials⟩
      cases found
      exact dials

/-- Whether a call gets as far as a pick does not depend on the random source. -/
theorem Picks.withAnswer (picks : s.Picks input evaluation) (answer : UInt64 → UInt64) :
    ({ s with answer } : Surroundings).Picks input evaluation := by
  cases picks with
  | privileged passes privileged evaluates =>
    exact .privileged ⟨passes.named, passes.unforced⟩ privileged evaluates
  | @ordinary _ reads ordinary cleared evaluates allows =>
    have still : ({ s with answer } : Surroundings).Cleared input reads := by
      cases cleared with
      | free gratis => exact .free gratis
      | covered asks balance same funds =>
        exact .covered ⟨asks.charge, asks.balances, asks.wallet, asks.currency⟩ balance same funds
    exact .ordinary ⟨⟨ordinary.named, ordinary.unforced⟩, ordinary.unprivileged⟩ still evaluates
      allows

/-- The call is connected to the destination that is picked. -/
theorem dials_of_picks (picks : s.Picks input evaluation)
    (picked : s.picked? evaluation.destinations = some d) : s.Dials input d.target := by
  cases picks with
  | privileged passes privileged evaluates =>
    unfold Dials
    rw [route_of_privileged passes privileged, routed_privileged_of_ok evaluates, picked]
    exact ⟨_, rfl, rfl⟩
  | ordinary ordinary cleared evaluates allows =>
    unfold Dials
    rw [route_of_ordinary ordinary, run_rejection?_of_cleared cleared]
    simp only [routedFrom_afterGate_of_allowed evaluates allows, picked]
    exact ⟨_, rfl, rfl⟩

/-- A call is connected to the target of an override, which has been looked at, or to one that an
evaluation offers. -/
theorem connected_of_dials (dials : s.Dials input target) :
    (∃ o, s.InForce input o ∧ o.Covers input.workspaceId input.campaign? ∧
        ¬IsBlank o.connectTo ∧ o.connectTo = target) ∨
      ∃ evaluation, s.Picks input evaluation ∧ evaluation.Offers target := by
  obtain ⟨decision, answered, connects⟩ := dials
  have ends := ends_route s input
  generalize s.route input = routed at ends answered
  cases ends with
  | nameless _ missing =>
    rw [missing] at answered
    cases answered
  | overruled _ overruled =>
    cases overruled with
    | failed | outside | targetless => cases answered
    | forced inForce covers some_target =>
      cases answered
      exact .inl ⟨_, inForce, covers, some_target, Option.some_inj.mp connects⟩
  | bypassed passes privileged bypassed =>
    cases bypassed with
    | unserved | failed | undelivered =>
      cases answered
      cases connects
    | connected evaluates picked =>
      cases answered
      cases connects
      exact .inr ⟨_, .privileged passes privileged evaluates, offers_of_picked picked⟩
  | barred _ barred =>
    -- the gate connects nobody
    cases barred with
    | unwired | walletless | currencyless | waiting | failed => cases answered
    | foreign | short =>
      cases answered
      cases connects
  | judged ordinary cleared judged =>
    cases judged with
    | unwired | failed => cases answered
    | campaignless | denied | undelivered =>
      cases answered
      cases connects
    | selected evaluates allows picked =>
      cases answered
      cases connects
      exact .inr ⟨_, .ordinary ordinary cleared evaluates allows, offers_of_picked picked⟩

/-- Every target that is offered can be dialed, whatever it is. -/
theorem exists_dials_of_offers (picks : s.Picks input evaluation)
    (few : Destination.Few evaluation.destinations) (offers : evaluation.Offers target) :
    ∃ answer, AnswersBelow answer ∧ ({ s with answer } : Surroundings).Dials input target := by
  obtain ⟨d, listed, positive, rfl⟩ := offers
  obtain ⟨answer, honest, picked⟩ := Destination.exists_answer_of_eligible few listed positive
  exact ⟨answer, honest, dials_of_picks (picks.withAnswer answer) picked⟩

/-- A call is connected to a blank target only if it is offered one. Then some source that keeps to
its bounds has it dialed, unless the destinations are too many to be picked from. A provider hears of
no blank target otherwise. -/
theorem dials_blank_iff (blank : IsBlank target)
    (few : ∀ evaluation, s.Picks input evaluation → Destination.Few evaluation.destinations) :
    (s.Dials input target → ∃ evaluation, s.Picks input evaluation ∧ evaluation.Offers target) ∧
      ((∃ answer, AnswersBelow answer ∧ ({ s with answer } : Surroundings).Dials input target) ↔
        ∃ evaluation, s.Picks input evaluation ∧ evaluation.Offers target) ∧
      ∀ {r call context}, s.DialsFor r call context target →
        ∃ input evaluation, r.input call context = .ok input ∧ s.Picks input evaluation ∧
          evaluation.Offers target := by
  have offered {s : Surroundings} {input : RouteInput} (dials : s.Dials input target) :
      ∃ evaluation, s.Picks input evaluation ∧ evaluation.Offers target := by
    rcases connected_of_dials dials with ⟨o, -, -, filled, rfl⟩ | offered
    · exact absurd blank filled
    · exact offered
  refine ⟨offered, ⟨?_, ?_⟩, ?_⟩
  · rintro ⟨answer, -, dials⟩
    obtain ⟨evaluation, picks, offers⟩ := offered dials
    -- the source that has been asked makes no difference to who is asked
    exact ⟨evaluation, picks.withAnswer s.answer, offers⟩
  · rintro ⟨evaluation, picks, offers⟩
    exact exists_dials_of_offers picks (few evaluation picks) offers
  · intro r call context told
    obtain ⟨input, found, dials⟩ := dialsFor_iff.mp told
    obtain ⟨evaluation, picks, offers⟩ := offered dials
    exact ⟨input, evaluation, found, picks, offers⟩

/-- Surroundings whose evaluator offers an empty target beside a front desk. -/
def carelessSurroundings : Surroundings :=
  { sampleSurroundings with
    campaigns := some fun _ _ _ => .ok ⟨true, none, [⟨"", 1⟩, ⟨"sip:front", 3⟩]⟩ }

theorem dials_blank_of_careless :
    carelessSurroundings.Picks sampleCall ⟨true, none, [⟨"", 1⟩, ⟨"sip:front", 3⟩]⟩ ∧
      IsBlank "" ∧
      ∃ answer, AnswersBelow answer ∧
        ({ carelessSurroundings with answer } : Surroundings).Dials sampleCall "" := by
  have picks : carelessSurroundings.Picks sampleCall ⟨true, none, [⟨"", 1⟩, ⟨"sip:front", 3⟩]⟩ := by
    have unforced : carelessSurroundings.Unforced sampleCall := fun _ some => by cases some
    exact .ordinary ⟨⟨by decide, unforced⟩, rfl⟩
      (.covered ⟨rfl, rfl, rfl, rfl⟩ rfl rfl (by decide)) ⟨rfl, _, rfl, rfl⟩ rfl
  have few : ∀ evaluation, carelessSurroundings.Picks sampleCall evaluation →
      Destination.Few evaluation.destinations := by
    intro evaluation picks
    obtain ⟨campaign, -, evaluator, wired, answers⟩ := picks.evaluates
    cases wired
    cases answers
    change 2 < 8589934592
    decide
  have blank : IsBlank "" := by decide
  refine ⟨picks, blank, (dials_blank_iff blank few).2.1.mpr ⟨_, picks, ?_⟩⟩
  exact ⟨⟨"", 1⟩, List.mem_cons_self, by decide, rfl⟩

/-- With a source that always answers zero the call is connected to nothing. -/
theorem connected_to_nothing :
    ¬ ∀ (s : Surroundings) (input : RouteInput) (decision : Decision) (target : String),
      (s.route input).answer = .ok decision → decision.connectTo = some target →
        ¬IsBlank target := by
  intro claim
  exact claim carelessSurroundings sampleCall _ _ rfl rfl (by decide)

end Surroundings

end CallExchange
