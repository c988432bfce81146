import CallExchange.Proofs.Routing.Ends

/-!
# When routing fails

Routing fails for a want of what it needs: a workspace, an override that is set up properly, a wallet
to charge and its balance, an evaluator and its verdict. What it needs it looks at in a fixed order,
and it fails with the first fault there is. That a policy rejects a call is no fault, so that every
call without a fault is decided.

Faults are described here one by one, without regard to the order and to the stages of routing. The
rules of wallets and campaigns are looked at only for a call that they govern, and those of a campaign
only if the wallet has not already rejected the call.

## Main definitions

* `Check` — what routing looks at, in its order
* `Surroundings.Fault` — what can be found wrong with it
* `Surroundings.Fine`, `Surroundings.Finds` — nothing is wrong with it, and what is the first fault

## Main results

* `finds_of_ends` — every end of routing is that of the first fault, or a decision for want of any
* `fails_iff_finds` — routing fails with the first fault, and decides if there is none
-/

namespace CallExchange

open Text

/-- What routing looks at. -/
inductive Check where
  | workspace
  | overrideAnswer
  | overrideScope
  | overrideTarget
  | walletService
  | walletId
  | currency
  | balance
  | evaluator
  | evaluation
  deriving DecidableEq, Repr, Inhabited

/-- All that routing looks at, in its order. -/
def Check.inOrder : List Check :=
  [.workspace, .overrideAnswer, .overrideScope, .overrideTarget, .walletService, .walletId,
    .currency, .balance, .evaluator, .evaluation]

theorem Check.mem_inOrder (c : Check) : c ∈ inOrder := by cases c <;> decide

/-- The halt of a computation that has not answered. -/
def halt? {ε α : Type} : Except ε α → Option ε
  | .ok _ => none
  | .error e => some e

namespace Surroundings

variable {s : Surroundings} {input : RouteInput} {o : Override} {cost : Minor}
  {walletId currency campaign : String} {read : BalanceReader} {evaluation : Evaluation}
  {answer : Except String Evaluation} {reads : List WalletKey} {c : Check} {cs : List Check}
  {h h' : Halt RoutingError}
  {found found' : Option (Halt RoutingError)} {r : Routed Decision}

/-! ### Faults -/

/-- The rules of wallets and campaigns govern the call: no override is in force, and the role is not
privileged. -/
structure Governed (s : Surroundings) (input : RouteInput) : Prop where
  unforced : ∀ o, ¬s.InForce input o
  unprivileged : input.isPrivileged = false

/-- The balance gate rejects the call: the balance is in another currency or below the cost. -/
def Refuses (s : Surroundings) (input : RouteInput) : Prop :=
  ∃ cost walletId currency read b, s.Asks input cost walletId currency read ∧
    read ⟨input.workspaceId, walletId⟩ = .ok b ∧ (b.currency ≠ currency ∨ b.amount < cost)

/-- What can be found wrong, and how routing ends when that is the first fault. A balance that has
to be waited for is the only one that is not an error. -/
inductive Fault (s : Surroundings) (input : RouteInput) : Check → Halt RoutingError → Prop
  | nameless (blank : IsBlank input.workspaceId) :
      Fault s input .workspace (.failed .missingWorkspace)
  | unanswered {lookup : OverrideLookup} {words : String} (overrides : s.overrides = some lookup)
      (fails : lookup input.workspaceId input.campaign? input.inbound s.now = .error words) :
      Fault s input .overrideAnswer (.failed (.overrideStore words))
  | outside {o : Override} (inForce : s.InForce input o)
      (elsewhere : ¬o.Covers input.workspaceId input.campaign?) :
      Fault s input .overrideScope (.failed (.overrideScopeMismatch o.overrideId))
  | targetless {o : Override} (inForce : s.InForce input o)
      (covers : o.Covers input.workspaceId input.campaign?) (blank : IsBlank o.connectTo) :
      Fault s input .overrideTarget (.failed (.emptyOverrideTarget o.overrideId))
  | unserved {cost : Minor} (governed : s.Governed input) (charge : input.charge? = some cost)
      (balances : s.balances = none) :
      Fault s input .walletService (.failed (.notConfigured .walletService))
  | walletless {cost : Minor} (governed : s.Governed input) (charge : input.charge? = some cost)
      (wallet : present input.walletId = none) :
      Fault s input .walletId (.failed (.missingWalletContext .walletId))
  | currencyless {cost : Minor} (governed : s.Governed input) (charge : input.charge? = some cost)
      (currency : present input.currency = none) :
      Fault s input .currency (.failed (.missingWalletContext .currency))
  | waiting {cost : Minor} {walletId currency : String} {read : BalanceReader}
      (governed : s.Governed input) (asks : s.Asks input cost walletId currency read)
      (waits : read ⟨input.workspaceId, walletId⟩ = .error .waiting) :
      Fault s input .balance .waiting
  | unread {cost : Minor} {walletId currency : String} {read : BalanceReader} {cause : WalletError}
      (governed : s.Governed input) (asks : s.Asks input cost walletId currency read)
      (fails : read ⟨input.workspaceId, walletId⟩ = .error (.failed cause)) :
      Fault s input .balance (.failed (.wallet cause))
  | unjudged {campaign : String} (governed : s.Governed input) (accepted : ¬s.Refuses input)
      (named : input.campaign? = some campaign) (campaigns : s.campaigns = none) :
      Fault s input .evaluator (.failed (.notConfigured .campaignEvaluator))
  | unevaluated {campaign words : String} (governed : s.Governed input)
      (accepted : ¬s.Refuses input) (fails : s.Evaluates input campaign (.error words)) :
      Fault s input .evaluation (.failed (.campaign words))

/-- Nothing is wrong with what routing looks at. -/
def Fine (s : Surroundings) (input : RouteInput) (c : Check) : Prop := ∀ h, ¬s.Fault input c h

/-- The first fault in a list of checks, if there is any. -/
inductive Finds (s : Surroundings) (input : RouteInput) :
    List Check → Option (Halt RoutingError) → Prop
  | done : Finds s input [] none
  | fault {c : Check} {rest : List Check} {h : Halt RoutingError} (fault : s.Fault input c h) :
      Finds s input (c :: rest) (some h)
  | next {c : Check} {rest : List Check} {found : Option (Halt RoutingError)}
      (fine : s.Fine input c) (later : Finds s input rest found) : Finds s input (c :: rest) found

/-- At each check there is at most one fault. -/
theorem Fault.unique (fault : s.Fault input c h) (other : s.Fault input c h') : h = h' := by
  cases fault with
  | nameless | unserved | walletless | currencyless | unjudged => cases other; rfl
  | unanswered overrides fails =>
    cases other with
    | unanswered overrides' fails' =>
      cases overrides.symm.trans overrides'
      cases fails.symm.trans fails'
      rfl
  | outside inForce =>
    cases other with
    | outside inForce' => rw [inForce.unique inForce']
  | targetless inForce =>
    cases other with
    | targetless inForce' => rw [inForce.unique inForce']
  | waiting _ asks waits =>
    cases other with
    | waiting => rfl
    | unread _ asks' fails =>
      obtain ⟨-, rfl, -, rfl⟩ := asks.unique asks'
      cases waits.symm.trans fails
  | unread _ asks fails =>
    cases other with
    | waiting _ asks' waits =>
      obtain ⟨-, rfl, -, rfl⟩ := asks.unique asks'
      cases fails.symm.trans waits
    | unread _ asks' fails' =>
      obtain ⟨-, rfl, -, rfl⟩ := asks.unique asks'
      cases fails.symm.trans fails'
      rfl
  | unevaluated _ _ fails =>
    cases other with
    | unevaluated _ _ fails' =>
      cases (fails.unique fails').2
      rfl

/-- A list of checks has one first fault, or none. -/
theorem Finds.unique (finds : s.Finds input cs found) (other : s.Finds input cs found') :
    found = found' := by
  induction finds with
  | done =>
    cases other
    rfl
  | fault fault =>
    cases other with
    | fault fault' => rw [fault.unique fault']
    | next fine => exact (fine _ fault).elim
  | next fine _ ih =>
    cases other with
    | fault fault' => exact (fine _ fault').elim
    | next _ later' => exact ih later'

/-- No fault is found exactly if there is none. -/
theorem finds_none_iff : s.Finds input cs none ↔ ∀ c ∈ cs, s.Fine input c := by
  induction cs with
  | nil => exact ⟨fun _ c mem => (List.not_mem_nil mem).elim, fun _ => .done⟩
  | cons c cs ih =>
    rw [List.forall_mem_cons, ← ih]
    constructor
    · intro finds
      cases finds with
      | next fine later => exact ⟨fine, later⟩
    · rintro ⟨fine, later⟩
      exact .next fine later

/-! ### Checks that are passed -/

theorem Ordinary.governed (ordinary : s.Ordinary input) : s.Governed input where
  unforced _ inForce := inForce.not_unforced ordinary.unforced
  unprivileged := ordinary.unprivileged

theorem fine_workspace (named : ¬IsBlank input.workspaceId) : s.Fine input .workspace := by
  intro h fault
  cases fault with
  | nameless blank => exact named blank

theorem fine_overrideAnswer (inForce : s.InForce input o) : s.Fine input .overrideAnswer := by
  obtain ⟨lookup, overrides, answer, -⟩ := inForce
  intro h fault
  cases fault with
  | unanswered overrides' fails =>
    cases overrides.symm.trans overrides'
    cases answer.symm.trans fails

theorem fine_overrideScope (inForce : s.InForce input o)
    (covers : o.Covers input.workspaceId input.campaign?) : s.Fine input .overrideScope := by
  intro h fault
  cases fault with
  | outside inForce' elsewhere =>
    cases inForce.unique inForce'
    exact elsewhere covers

theorem fine_overrideTarget (inForce : s.InForce input o) (target : ¬IsBlank o.connectTo) :
    s.Fine input .overrideTarget := by
  intro h fault
  cases fault with
  | targetless inForce' _ blank =>
    cases inForce.unique inForce'
    exact target blank

theorem fine_walletService (balances : s.balances = some read) :
    s.Fine input .walletService := by
  intro h fault
  cases fault with
  | unserved _ _ missing => cases balances.symm.trans missing

theorem fine_walletId (wallet : present input.walletId = some walletId) :
    s.Fine input .walletId := by
  intro h fault
  cases fault with
  | walletless _ _ missing => cases wallet.symm.trans missing

theorem fine_currency (named : present input.currency = some currency) :
    s.Fine input .currency := by
  intro h fault
  cases fault with
  | currencyless _ _ missing => cases named.symm.trans missing

theorem fine_balance {b : Balance} (asks : s.Asks input cost walletId currency read)
    (answer : read ⟨input.workspaceId, walletId⟩ = .ok b) : s.Fine input .balance := by
  intro h fault
  cases fault with
  | waiting _ asks' waits =>
    obtain ⟨-, rfl, -, rfl⟩ := asks.unique asks'
    cases answer.symm.trans waits
  | unread _ asks' fails =>
    obtain ⟨-, rfl, -, rfl⟩ := asks.unique asks'
    cases answer.symm.trans fails

theorem fine_evaluator (evaluates : s.Evaluates input campaign answer) :
    s.Fine input .evaluator := by
  obtain ⟨-, evaluator, campaigns, -⟩ := evaluates
  intro h fault
  cases fault with
  | unjudged _ _ _ missing => cases campaigns.symm.trans missing

theorem fine_evaluation (evaluates : s.Evaluates input campaign (.ok evaluation)) :
    s.Fine input .evaluation := by
  intro h fault
  cases fault with
  | unevaluated _ _ fails => cases (evaluates.unique fails).2

/-- What a campaign does is of no concern to a call that has none, or that the wallet rejects. -/
theorem finds_of_unjudged (unjudged : s.Refuses input ∨ input.campaign? = none) :
    s.Finds input [.evaluator, .evaluation] none := by
  refine .next (fun h fault => ?_) (.next (fun h fault => ?_) .done)
  · cases fault with
    | unjudged _ accepted named =>
      rcases unjudged with refuses | campaignless
      · exact accepted refuses
      · cases campaignless.symm.trans named
  · cases fault with
    | unevaluated _ accepted fails =>
      rcases unjudged with refuses | campaignless
      · exact accepted refuses
      · cases campaignless.symm.trans fails.1

/-- A call that is not governed by the rules of wallets and campaigns has no fault with them. -/
theorem finds_of_not_governed (exempt : ¬s.Governed input) :
    s.Finds input [.walletService, .walletId, .currency, .balance, .evaluator, .evaluation]
      none := by
  refine finds_none_iff.mpr fun c mem h fault => ?_
  cases fault with
  | nameless | unanswered | outside | targetless => simp at mem
  | unserved governed | walletless governed | currencyless governed | waiting governed
  | unread governed | unjudged governed | unevaluated governed => exact exempt governed

/-! ### The first fault of a call -/

/-- A call that passes the override stage has no fault there. -/
theorem finds_of_passes (passes : s.Passes input)
    (later : s.Finds input [.walletService, .walletId, .currency, .balance, .evaluator, .evaluation]
      found) : s.Finds input Check.inOrder found := by
  have unforced (o : Override) : ¬s.InForce input o :=
    fun inForce => inForce.not_unforced passes.unforced
  refine .next (fine_workspace passes.named) (.next ?_ (.next ?_ (.next ?_ later)))
  · intro h fault
    cases fault with
    | unanswered overrides fails =>
      obtain ⟨_, answer, -⟩ := passes.unforced _ overrides
      cases answer.symm.trans fails
  · intro h fault
    cases fault with
    | outside inForce => exact unforced _ inForce
  · intro h fault
    cases fault with
    | targetless inForce => exact unforced _ inForce

/-- A call whose balance can be asked for has no fault up to there. -/
theorem finds_of_asks (passes : s.Passes input) (asks : s.Asks input cost walletId currency read)
    (later : s.Finds input [.balance, .evaluator, .evaluation] found) :
    s.Finds input Check.inOrder found :=
  finds_of_passes passes (.next (fine_walletService asks.balances) (.next (fine_walletId asks.wallet)
    (.next (fine_currency asks.currency) later)))

/-- A call that the balance gate lets through has no fault up to there, and is not rejected. -/
theorem finds_of_cleared (ordinary : s.Ordinary input) (cleared : s.Cleared input reads)
    (later : s.Finds input [.evaluator, .evaluation] found) :
    s.Finds input Check.inOrder found := by
  cases cleared with
  | free gratis =>
    -- where there is nothing to charge, nothing about the wallet is a fault
    refine finds_of_passes ordinary.toPasses
      (.next (fun h fault => ?_) (.next (fun h fault => ?_) (.next (fun h fault => ?_)
        (.next (fun h fault => ?_) later))))
    · cases fault with
      | unserved _ charge => cases gratis.symm.trans charge
    · cases fault with
      | walletless _ charge => cases gratis.symm.trans charge
    · cases fault with
      | currencyless _ charge => cases gratis.symm.trans charge
    · cases fault with
      | waiting _ asks | unread _ asks => cases gratis.symm.trans asks.charge
  | covered asks balance =>
    exact finds_of_asks ordinary.toPasses asks (.next (fine_balance asks balance) later)

theorem Cleared.not_refuses (cleared : s.Cleared input reads) : ¬s.Refuses input := by
  rintro ⟨cost, walletId, currency, read, b, asks, answer, short⟩
  cases cleared with
  | free gratis => cases gratis.symm.trans asks.charge
  | covered asks' balance same funds =>
    obtain ⟨rfl, rfl, rfl, rfl⟩ := asks.unique asks'
    cases answer.symm.trans balance
    rcases short with differs | lacks
    · exact differs same
    · exact Int64.not_lt.mpr funds lacks

theorem finds_of_overruled (named : ¬IsBlank input.workspaceId) (overruled : s.Overruled input r) :
    s.Finds input Check.inOrder (halt? r.answer) := by
  refine .next (fine_workspace named) ?_
  cases overruled with
  | failed overrides fails => exact .fault (.unanswered overrides fails)
  | outside inForce elsewhere =>
    exact .next (fine_overrideAnswer inForce) (.fault (.outside inForce elsewhere))
  | targetless inForce covers blank =>
    exact .next (fine_overrideAnswer inForce) (.next (fine_overrideScope inForce covers)
      (.fault (.targetless inForce covers blank)))
  | forced inForce covers target =>
    -- an override that is in force exempts the call from all that comes later
    refine .next (fine_overrideAnswer inForce) (.next (fine_overrideScope inForce covers)
      (.next (fine_overrideTarget inForce target) (finds_of_not_governed ?_)))
    intro governed
    exact governed.unforced _ inForce

theorem finds_of_bypassed (passes : s.Passes input) (privileged : input.isPrivileged = true)
    (bypassed : s.Bypassed input r) : s.Finds input Check.inOrder (halt? r.answer) := by
  have exempt : ¬s.Governed input := by
    intro governed
    cases privileged.symm.trans governed.unprivileged
  have nothing : s.Finds input Check.inOrder none :=
    finds_of_passes passes (finds_of_not_governed exempt)
  cases bypassed with
  | unserved | failed | undelivered | connected => exact nothing

theorem finds_of_barred (ordinary : s.Ordinary input) (barred : s.Barred input r) :
    s.Finds input Check.inOrder (halt? r.answer) := by
  have passes := ordinary.toPasses
  have governed := ordinary.governed
  cases barred with
  | unwired charge balances =>
    exact finds_of_passes passes (.fault (.unserved governed charge balances))
  | walletless charge balances wallet =>
    exact finds_of_passes passes (.next (fine_walletService balances)
      (.fault (.walletless governed charge wallet)))
  | currencyless charge balances wallet currency =>
    exact finds_of_passes passes (.next (fine_walletService balances) (.next (fine_walletId wallet)
      (.fault (.currencyless governed charge currency))))
  | waiting asks waits => exact finds_of_asks passes asks (.fault (.waiting governed asks waits))
  | failed asks fails => exact finds_of_asks passes asks (.fault (.unread governed asks fails))
  | foreign asks answer differs =>
    have refuses : s.Refuses input := ⟨_, _, _, _, _, asks, answer, .inl differs⟩
    exact finds_of_asks passes asks
      (.next (fine_balance asks answer) (finds_of_unjudged (.inl refuses)))
  | short asks answer same lacks =>
    have refuses : s.Refuses input := ⟨_, _, _, _, _, asks, answer, .inr lacks⟩
    exact finds_of_asks passes asks
      (.next (fine_balance asks answer) (finds_of_unjudged (.inl refuses)))

theorem finds_of_judged (ordinary : s.Ordinary input) (cleared : s.Cleared input reads)
    (judged : s.Judged input reads r) : s.Finds input Check.inOrder (halt? r.answer) := by
  have governed := ordinary.governed
  have accepted := cleared.not_refuses
  refine finds_of_cleared ordinary cleared ?_
  cases judged with
  | campaignless nothing => exact finds_of_unjudged (.inr nothing)
  | unwired named campaigns => exact .fault (.unjudged governed accepted named campaigns)
  | failed fails =>
    exact .next (fine_evaluator fails) (.fault (.unevaluated governed accepted fails))
  | denied evaluates | undelivered evaluates | selected evaluates =>
    exact .next (fine_evaluator evaluates) (.next (fine_evaluation evaluates) .done)

/-- Every end of routing is that of the first fault, or a decision for want of any. -/
theorem finds_of_ends (ends : s.Ends input r) : s.Finds input Check.inOrder (halt? r.answer) := by
  cases ends with
  | nameless blank missing =>
    rw [missing]
    exact .fault (.nameless blank)
  | overruled named overruled => exact finds_of_overruled named overruled
  | bypassed passes privileged bypassed => exact finds_of_bypassed passes privileged bypassed
  | barred ordinary barred => exact finds_of_barred ordinary barred
  | judged ordinary cleared judged => exact finds_of_judged ordinary cleared judged

/-- Routing fails with the first fault, in the order of the checks, and decides exactly if there is
no fault. An error is one of configuration exactly if a collaborator is missing, a part of the wallet
context is missing, or an override is out of its scope or without a target. -/
theorem fails_iff_finds (s : Surroundings) (input : RouteInput) :
    (∀ h, (s.route input).answer = .error h ↔ s.Finds input Check.inOrder (some h)) ∧
      ((∃ d, (s.route input).answer = .ok d) ↔ ∀ c, s.Fine input c) ∧
      ∀ e : RoutingError, e.isConfiguration = true ↔
        (∃ what, e = .notConfigured what) ∨ (∃ part, e = .missingWalletContext part) ∨
          (∃ overrideId, e = .overrideScopeMismatch overrideId) ∨
          ∃ overrideId, e = .emptyOverrideTarget overrideId := by
  have finds : s.Finds input Check.inOrder (halt? (s.route input).answer) :=
    finds_of_ends (ends_route s input)
  have fine : s.Finds input Check.inOrder none ↔ ∀ c, s.Fine input c := by
    rw [finds_none_iff]
    exact ⟨fun fine c => fine c c.mem_inOrder, fun fine c _ => fine c⟩
  refine ⟨fun h => ?_, ?_, fun e => ?_⟩
  · cases answer : (s.route input).answer with
    | ok d =>
      rw [answer] at finds
      constructor
      · intro failed
        cases failed
      · intro first
        cases finds.unique first
    | error h' =>
      rw [answer] at finds
      constructor
      · intro same
        cases same
        exact finds
      · intro first
        cases finds.unique first
        rfl
  · rw [← fine]
    cases answer : (s.route input).answer with
    | ok d =>
      rw [answer] at finds
      exact ⟨fun _ => finds, fun _ => ⟨d, rfl⟩⟩
    | error h' =>
      rw [answer] at finds
      constructor
      · rintro ⟨d, decided⟩
        cases decided
      · intro nothing
        cases finds.unique nothing
  · cases e <;> simp [RoutingError.isConfiguration]

/-- Of two faults the first one counts: the call has no currency, and nobody is there to be asked for
a balance. -/
example :
    (({ sampleSurroundings with balances := none } : Surroundings).route
      { sampleCall with currency := some " " }).answer =
      .error (.failed (.notConfigured .walletService)) := rfl

end Surroundings

end CallExchange
