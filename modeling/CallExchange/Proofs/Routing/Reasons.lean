import CallExchange.Proofs.Routing.Ends
import CallExchange.Proofs.Routing.Pick

/-!
# Why a call was decided

A decision tells in its reason how it was reached, and a connect without a reason tells that an
override forced it. What the reason says is true: the stages before have let the call through, and
the stage that decided has found what it says. So no call is connected that has not been authorised
in one of three ways, whatever is connected to routing and however it fails.

## Main definitions

* `Evaluation.Offers` — a target that an evaluation gives a positive weight
* `Surroundings.Grounds` — what must have been found for an action and a reason
* `Surroundings.Truthful` — a decision of the call that has its grounds

## Main results

* `truthful_of_overruled`, `truthful_of_bypassed`, `truthful_of_barred`, `truthful_of_judged` — the
  decisions of each stage
* `truthful_of_route` — every decision
-/

namespace CallExchange

open Text

/-- The evaluation gives a target a positive weight. -/
def Evaluation.Offers (evaluation : Evaluation) (target : String) : Prop :=
  ∃ d ∈ evaluation.destinations, 0 < d.weight ∧ d.target = target

/-- The words of a refusal are those of the evaluation, trimmed, unless it has none. -/
theorem Reason.denied_eq (given : Option String) :
    Reason.denied given = .campaignDenied ((present given).elim "campaign_blocked" trim) := by
  cases given with
  | none => rfl
  | some words =>
    by_cases blank : IsBlank words
    · have nothing : present (some words) = none := by simp [present, blank]
      rw [nothing, denied, Option.map_some, isBlank_iff_trim_eq.mp blank]
      rfl
    · have kept : present (some words) = some words := by simpa [present] using blank
      have filled : trim words ≠ "" := mt isBlank_iff_trim_eq.mpr blank
      rw [kept, denied, Option.map_some]
      simp only [if_neg filled, Option.elim_some]

/-- A refusal has words. -/
theorem Reason.not_isBlank_denied (given : Option String) :
    ¬IsBlank ((present given).elim "campaign_blocked" trim) := by
  cases some_words : present given with
  | none => simp only [Option.elim_none]; decide
  | some words =>
    have filled := (Option.filter_eq_some_iff.mp some_words).2
    simpa [isBlank_trim] using filled

namespace Surroundings

variable {s : Surroundings} {input : RouteInput} {r : Routed Decision} {d : Decision}

/-- What must have been found for an action and a reason. -/
inductive Grounds (s : Surroundings) (input : RouteInput) : Action → Option Reason → Prop
  /-- An override is in force that covers the call and has a target. -/
  | forced {o : Override} (inForce : s.InForce input o)
      (covers : o.Covers input.workspaceId input.campaign?) (target : ¬IsBlank o.connectTo) :
      Grounds s input (.connect o.connectTo) none
  /-- No override, a privileged role, and a target that the campaign offers, allowed or not. -/
  | bypassed {campaign : String} {evaluation : Evaluation} {target : String}
      (unforced : s.Unforced input) (privileged : input.isPrivileged = true)
      (evaluates : s.Evaluates input campaign (.ok evaluation))
      (offers : evaluation.Offers target) :
      Grounds s input (.connect target) (some .adminOverride)
  /-- No override, no privilege, a cost that is covered, and a target that the campaign offers and
  allows. -/
  | selected {campaign : String} {evaluation : Evaluation} {target : String}
      {reads : List WalletKey} (unforced : s.Unforced input)
      (unprivileged : input.isPrivileged = false) (cleared : s.Cleared input reads)
      (evaluates : s.Evaluates input campaign (.ok evaluation))
      (allows : evaluation.allowed = true) (offers : evaluation.Offers target) :
      Grounds s input (.connect target) (some .selected)
  /-- A privileged call has nowhere to go, unless the source has broken its bounds. -/
  | stranded (unforced : s.Unforced input) (privileged : input.isPrivileged = true)
      (nowhere : AnswersBelow s.answer → ∀ campaign evaluation,
        s.Evaluates input campaign (.ok evaluation) → Destination.Few evaluation.destinations →
          ∀ target, ¬evaluation.Offers target) :
      Grounds s input .reject (some .adminOverrideNoDestination)
  /-- There is a cost, and the wallet is in another currency. -/
  | foreign {cost : Minor} {walletId currency : String} {read : BalanceReader} {b : Balance}
      (unforced : s.Unforced input) (unprivileged : input.isPrivileged = false)
      (asks : s.Asks input cost walletId currency read)
      (balance : read ⟨input.workspaceId, walletId⟩ = .ok b) (differs : b.currency ≠ currency) :
      Grounds s input .reject (some .walletCurrencyMismatch)
  /-- There is a cost, and the wallet does not cover it. -/
  | short {cost : Minor} {walletId currency : String} {read : BalanceReader} {b : Balance}
      (unforced : s.Unforced input) (unprivileged : input.isPrivileged = false)
      (asks : s.Asks input cost walletId currency read)
      (balance : read ⟨input.workspaceId, walletId⟩ = .ok b) (same : b.currency = currency)
      (lacks : b.amount < cost) : Grounds s input .reject (some .insufficientBalance)
  /-- The call has no campaign. -/
  | campaignless {reads : List WalletKey} (unforced : s.Unforced input)
      (unprivileged : input.isPrivileged = false) (cleared : s.Cleared input reads)
      (nothing : input.campaign? = none) : Grounds s input .reject (some .campaignIdRequired)
  /-- The campaign refuses the call, in its own words if it has any. -/
  | denied {campaign : String} {evaluation : Evaluation} {reads : List WalletKey}
      (unforced : s.Unforced input) (unprivileged : input.isPrivileged = false)
      (cleared : s.Cleared input reads)
      (evaluates : s.Evaluates input campaign (.ok evaluation))
      (refuses : evaluation.allowed = false) :
      Grounds s input .reject
        (some (.campaignDenied ((present evaluation.reason).elim "campaign_blocked" trim)))
  /-- The campaign allows the call and offers no target, unless the source has broken its bounds. -/
  | undelivered {campaign : String} {evaluation : Evaluation} {reads : List WalletKey}
      (unforced : s.Unforced input) (unprivileged : input.isPrivileged = false)
      (cleared : s.Cleared input reads)
      (evaluates : s.Evaluates input campaign (.ok evaluation))
      (allows : evaluation.allowed = true)
      (nowhere : AnswersBelow s.answer → Destination.Few evaluation.destinations →
        ∀ target, ¬evaluation.Offers target) :
      Grounds s input .reject (some .noEligibleDestination)

/-- A decision of the call that has its grounds. -/
structure Truthful (s : Surroundings) (input : RouteInput) (d : Decision) : Prop where
  workspace : d.workspaceId = input.workspaceId
  campaign : d.campaignId = input.campaign?
  grounds : s.Grounds input d.action d.reason
  answered : d.action ≠ .hangup
  /-- A reject says why. -/
  explained : d.action = .reject → ∃ reason, d.reason = some reason ∧ ¬IsBlank reason.words

/-! ### What is picked -/

theorem offers_of_picked {evaluation : Evaluation} {d : Destination}
    (picked : s.picked? evaluation.destinations = some d) : evaluation.Offers d.target := by
  obtain ⟨listed, positive⟩ := Destination.eligible_of_picked picked
  exact ⟨d, listed, positive, rfl⟩

theorem not_offers_of_picked {evaluation : Evaluation}
    (nothing : s.picked? evaluation.destinations = none) (honest : AnswersBelow s.answer)
    (few : Destination.Few evaluation.destinations) (target : String) :
    ¬evaluation.Offers target := by
  rintro ⟨d, listed, positive, -⟩
  obtain ⟨e, picked⟩ := (Destination.exists_picked_iff few honest).mpr ⟨d, listed, positive⟩
  cases nothing.symm.trans picked

/-! ### The decisions of each stage -/

/-- An action with its grounds makes a truthful decision. -/
theorem Grounds.truthful {action : Action} {reason : Option Reason}
    (grounds : s.Grounds input action reason) :
    s.Truthful input ⟨input.workspaceId, input.campaign?, action, reason⟩ where
  workspace := rfl
  campaign := rfl
  grounds := grounds
  answered := by cases grounds <;> simp
  explained rejects := by
    cases grounds with
    | forced | bypassed | selected => cases rejects
    | denied => exact ⟨_, rfl, Reason.not_isBlank_denied _⟩
    | stranded | foreign | short | campaignless | undelivered => exact ⟨_, rfl, by decide⟩

theorem truthful_of_overruled (overruled : s.Overruled input r) (answered : r.answer = .ok d) :
    s.Truthful input d := by
  cases overruled with
  | failed | outside | targetless => cases answered
  | forced inForce covers target =>
    cases answered
    exact (Grounds.forced inForce covers target).truthful

theorem truthful_of_bypassed (unforced : s.Unforced input) (privileged : input.isPrivileged = true)
    (bypassed : s.Bypassed input r) (answered : r.answer = .ok d) : s.Truthful input d := by
  cases bypassed with
  | unserved nobody =>
    cases answered
    refine (Grounds.stranded unforced privileged fun _ campaign _ evaluates => ?_).truthful
    exact (nobody campaign _ evaluates).elim
  | failed evaluates =>
    cases answered
    refine (Grounds.stranded unforced privileged fun _ _ _ other => ?_).truthful
    cases (evaluates.unique other).2
  | undelivered evaluates nothing =>
    cases answered
    refine (Grounds.stranded unforced privileged fun honest _ _ other few => ?_).truthful
    cases (evaluates.unique other).2
    exact not_offers_of_picked nothing honest few
  | connected evaluates picked =>
    cases answered
    exact (Grounds.bypassed unforced privileged evaluates (offers_of_picked picked)).truthful

theorem truthful_of_barred (ordinary : s.Ordinary input) (barred : s.Barred input r)
    (answered : r.answer = .ok d) : s.Truthful input d := by
  obtain ⟨⟨-, unforced⟩, unprivileged⟩ := ordinary
  cases barred with
  | unwired | walletless | currencyless | waiting | failed => cases answered
  | foreign asks balance differs =>
    cases answered
    exact (Grounds.foreign unforced unprivileged asks balance differs).truthful
  | short asks balance same lacks =>
    cases answered
    exact (Grounds.short unforced unprivileged asks balance same lacks).truthful

theorem truthful_of_judged {reads : List WalletKey} (ordinary : s.Ordinary input)
    (cleared : s.Cleared input reads) (judged : s.Judged input reads r)
    (answered : r.answer = .ok d) : s.Truthful input d := by
  obtain ⟨⟨-, unforced⟩, unprivileged⟩ := ordinary
  cases judged with
  | unwired | failed => cases answered
  | campaignless nothing =>
    cases answered
    have truthful := (Grounds.campaignless unforced unprivileged cleared nothing).truthful
    rwa [nothing] at truthful
  | denied evaluates refuses =>
    cases answered
    rw [Reason.denied_eq]
    exact (Grounds.denied unforced unprivileged cleared evaluates refuses).truthful
  | undelivered evaluates allows nothing =>
    cases answered
    exact (Grounds.undelivered unforced unprivileged cleared evaluates allows
      fun honest few => not_offers_of_picked nothing honest few).truthful
  | selected evaluates allows picked =>
    cases answered
    exact (Grounds.selected unforced unprivileged cleared evaluates allows
      (offers_of_picked picked)).truthful

/-- Every decision is one of the call and has its grounds. -/
theorem truthful_of_route (answered : (s.route input).answer = .ok d) : s.Truthful input d := by
  cases ends_route s input with
  | nameless _ missing =>
    rw [missing] at answered
    cases answered
  | overruled _ overruled => exact truthful_of_overruled overruled answered
  | bypassed passes privileged bypassed =>
    exact truthful_of_bypassed passes.unforced privileged bypassed answered
  | barred ordinary barred => exact truthful_of_barred ordinary barred answered
  | judged ordinary cleared judged => exact truthful_of_judged ordinary cleared judged answered

/-- The sample call goes to the only destination with a positive weight. -/
theorem truthful_of_sampleCall :
    (sampleSurroundings.route sampleCall).answer =
        .ok ((Decision.connect "acme" (some "summer") "sip:front").because .selected) ∧
      sampleSurroundings.Truthful sampleCall
        ((Decision.connect "acme" (some "summer") "sip:front").because .selected) :=
  ⟨rfl, truthful_of_route rfl⟩

end Surroundings

end CallExchange
