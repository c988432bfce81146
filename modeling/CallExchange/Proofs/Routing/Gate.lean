import CallExchange.Ledger.Posting
import CallExchange.Routing.Inbound

/-!
# The balance gate

Of all the stages of routing only the balance gate reads a balance, and it reads one. It comes
before anything is evaluated or drawn, and after an override stage that has found nothing to apply.
So a call whose wallet has to be waited for has asked for nothing but that balance.

## Main definitions

* `RouteM.Unread` — a computation that reads no balance
* `Surroundings.Gated` — a computation that may read one balance, first of all

## Main results

* `gated_decide` — routing reads one balance at most, first of all
* `route_of_waiting` — a call that waits has asked for nothing else
-/

namespace CallExchange

open Text

/-! ### Stages that read no balance -/

/-- What has been asked of the collaborators after a computation, whether it has answered or ended
with an error. -/
def RouteM.traceAfter {α : Type} (m : RouteM α) (t : RouteTrace) : RouteTrace :=
  match m.run t with
  | .ok _ t => t
  | .error _ t => t

/-- The computation reads no balance. -/
def RouteM.Unread {α : Type} (m : RouteM α) : Prop :=
  ∀ t, (m.traceAfter t).balanceReads = t.balanceReads

namespace Surroundings

open RouteM

variable {s : Surroundings} {α β : Type} {m : RouteM α} {f : α → RouteM β}
  {workspaceId : String} {campaignId : Option String} {call : InboundCall} {context : CallContext}
  {input : RouteInput} {key : WalletKey} {read : BalanceReader}

theorem unread_bind (first : Unread m) (rest : ∀ a, Unread (f a)) : Unread (m >>= f) := by
  intro t
  have before := first t
  simp only [traceAfter, EStateM.run_bind] at before ⊢
  cases result : m.run t with
  | error e t' =>
    rw [result] at before
    exact before
  | ok a t' =>
    rw [result] at before
    exact (rest a t').trans before

theorem unread_pure (a : α) : Unread (pure a : RouteM α) := fun _ => rfl

theorem unread_fail {e : RoutingError} : Unread (fail e : RouteM α) := fun _ => rfl

theorem unread_failIf {c : Prop} [Decidable c] {e : RoutingError} : Unread (failIf c e) := by
  unfold failIf
  by_cases holds : c
  · rw [if_pos holds]
    exact unread_fail
  · rw [if_neg holds]
    exact unread_pure ()

theorem unread_evaluate {evaluator : CampaignEvaluator} {campaign : String} :
    Unread (evaluate evaluator workspaceId campaign call) := fun _ => rfl

theorem unread_pick {ds : List Destination} : Unread (s.pick ds) := fun _ => rfl

theorem unread_privileged : Unread (s.privileged workspaceId campaignId call) := by
  unfold privileged
  cases campaignId with
  | none => exact unread_pure _
  | some campaign =>
    cases s.campaigns with
    | none => exact unread_pure _
    | some evaluator =>
      refine unread_bind unread_evaluate fun answer => ?_
      cases answer with
      | error words => exact unread_pure _
      | ok evaluation =>
        refine unread_bind unread_pick fun d => ?_
        cases d <;> exact unread_pure _

theorem unread_afterGate : Unread (s.afterGate workspaceId campaignId call) := by
  unfold afterGate
  cases campaignId with
  | none => exact unread_pure _
  | some campaign =>
    cases s.campaigns with
    | none => exact unread_fail
    | some evaluator =>
      refine unread_bind unread_evaluate fun answer => ?_
      cases answer with
      | error words => exact unread_fail
      | ok evaluation =>
        by_cases allowed : evaluation.allowed
        · simp only [allowed, if_true]
          refine unread_bind unread_pick fun d => ?_
          cases d <;> exact unread_pure _
        · simp only [allowed]
          exact unread_pure _

theorem unread_override? {lookup : OverrideLookup} :
    Unread (s.override? lookup workspaceId campaignId call context) := by
  refine unread_bind unread_failIf fun _ => ?_
  cases lookup workspaceId campaignId call s.now with
  | error words => exact unread_fail
  | ok found =>
    cases found with
    | none => exact unread_pure _
    | some o =>
      by_cases active : o.IsActive s.now
      · simp only [active, not_true_eq_false, if_false]
        exact unread_bind unread_failIf fun _ => unread_bind unread_failIf fun _ =>
          unread_bind (fun _ => rfl) fun _ => unread_pure _
      · simp only [active, not_false_eq_true, if_true]
        exact unread_pure _

/-! ### The one balance -/

/-- The trace of a call that has read one balance and asked for nothing else. -/
def readOnly (key : WalletKey) : RouteTrace := ⟨[key], [], [], []⟩

/-- The computation either reads no balance, or first of all reads that of a wallet with a name, and
then waits if the wallet has to be waited for. -/
def Gated (s : Surroundings) (m : RouteM α) : Prop :=
  (m.traceAfter .empty).balanceReads = [] ∨
    ∃ key read, s.balances = some read ∧ key.refusal? = none ∧
      (m.traceAfter .empty).balanceReads = [key] ∧
      (read key = .error .waiting → m.run .empty = .error .waiting (readOnly key))

theorem gated_of_unread (unread : Unread m) : s.Gated m := .inl (unread .empty)

/-- What follows the gate reads no other balance. -/
theorem Gated.bind (gated : s.Gated m) (rest : ∀ a, Unread (f a)) : s.Gated (m >>= f) := by
  have reads : ((m >>= f).traceAfter .empty).balanceReads = (m.traceAfter .empty).balanceReads := by
    simp only [traceAfter, EStateM.run_bind]
    cases m.run .empty with
    | error e t => rfl
    | ok a t => exact rest a t
  rcases gated with none_read | ⟨key, read, balances, named, one_read, waits⟩
  · exact .inl (reads.trans none_read)
  · refine .inr ⟨key, read, balances, named, reads.trans one_read, fun waiting => ?_⟩
    rw [EStateM.run_bind, waits waiting]

theorem refusal_of_present {walletId : String} (named : ¬ IsBlank workspaceId)
    (wallet : present input.walletId = some walletId) :
    (WalletKey.mk workspaceId walletId).refusal? = none := by
  obtain ⟨-, filled⟩ := Option.filter_eq_some_iff.mp wallet
  have filled : isBlank walletId = false := by simpa using filled
  simp [WalletKey.refusal?, named, filled]

theorem gated_gate {cost : Minor} (named : ¬ IsBlank input.workspaceId) :
    s.Gated (s.gate input cost) := by
  unfold gate
  cases balances : s.balances with
  | none => exact gated_of_unread unread_fail
  | some read =>
    cases wallet : present input.walletId with
    | none => exact gated_of_unread unread_fail
    | some walletId =>
      cases present input.currency with
      | none => exact gated_of_unread unread_fail
      | some currency =>
        -- from here on the balance is read, whatever it is
        refine .inr ⟨⟨input.workspaceId, walletId⟩, read, balances,
          refusal_of_present named wallet, ?_, fun waiting => ?_⟩
        · simp only [traceAfter, EStateM.run_bind]
          cases read ⟨input.workspaceId, walletId⟩ with
          | ok balance => rfl
          | error halt => cases halt <;> rfl
        · simp only [EStateM.run_bind, waiting]
          rfl

theorem gated_rejection? (named : ¬ IsBlank input.workspaceId) : s.Gated (s.rejection? input) := by
  unfold rejection?
  cases input.estimatedCost.filter (0 < ·) with
  | none => exact gated_of_unread (unread_pure none)
  | some cost => exact gated_gate named

theorem gated_decideOrdinary (named : ¬ IsBlank input.workspaceId) :
    s.Gated (s.decideOrdinary input campaignId) := by
  unfold decideOrdinary
  cases input.actorRole.any Role.isPrivileged with
  | true => exact gated_of_unread unread_privileged
  | false =>
    refine (gated_rejection? named).bind fun reason => ?_
    cases reason with
    | some reason => exact unread_pure _
    | none => exact unread_afterGate

/-- An override that is applied is a decision, unless it fails. -/
theorem applied_ne_none {o : Override} {t t' : RouteTrace} :
    (s.applied workspaceId campaignId call context o).run t ≠ .ok none t' := by
  intro nothing
  by_cases covers : o.Covers workspaceId campaignId
  · by_cases target : isBlank o.connectTo
    · simp only [applied, failIf, covers, target, not_true_eq_false, if_false, if_true] at nothing
      cases nothing
    · simp only [applied, failIf, covers, target, not_true_eq_false, if_false] at nothing
      cases nothing
  · simp only [applied, failIf, covers, not_false_eq_true, if_true] at nothing
    cases nothing

/-- An override stage that finds nothing leaves no trace. -/
theorem override?_of_none {lookup : OverrideLookup} {t t' : RouteTrace}
    (nothing : (s.override? lookup workspaceId campaignId call context).run t = .ok none t') :
    t' = t := by
  by_cases blank : IsBlank workspaceId
  · simp only [override?, failIf, blank, if_true] at nothing
    cases nothing
  simp only [override?, failIf, blank, EStateM.run_bind] at nothing
  cases found : lookup workspaceId campaignId call s.now with
  | error words =>
    rw [found] at nothing
    cases nothing
  | ok o =>
    rw [found] at nothing
    cases o with
    | none =>
      cases nothing
      rfl
    | some o =>
      by_cases active : o.IsActive s.now
      · simp only [active, not_true_eq_false, if_false] at nothing
        exact absurd nothing applied_ne_none
      · simp only [active, not_false_eq_true, if_true] at nothing
        cases nothing
        rfl

theorem gated_of_run {m' : RouteM α} (gated : s.Gated m') (same : m.run .empty = m'.run .empty) :
    s.Gated m := by
  simpa only [Gated, traceAfter, same] using gated

/-- Routing reads one balance at most, before anything else is asked. -/
theorem gated_decide : s.Gated (s.decide input) := by
  unfold decide
  by_cases blank : IsBlank input.workspaceId
  · refine .inl ?_
    simp only [failIf, blank, if_true]
    rfl
  -- with a workspace, the wallet that the gate asks for has a name
  have named : ∀ campaignId, s.Gated (s.decideOrdinary input campaignId) :=
    fun _ => gated_decideOrdinary blank
  simp only [failIf, blank]
  cases s.overrides with
  | none => exact gated_of_run (named _) rfl
  | some lookup =>
    have before : (traceAfter (s.override? lookup input.workspaceId (present input.campaignId)
      input.inbound input.context) .empty).balanceReads = [] := unread_override? .empty
    cases result : (s.override? lookup input.workspaceId (present input.campaignId) input.inbound
        input.context).run .empty with
    | error e t =>
      refine .inl ?_
      simp only [traceAfter, result] at before
      simpa [traceAfter, EStateM.run_bind, result] using before
    | ok found t =>
      cases found with
      | some d =>
        refine .inl ?_
        simp only [traceAfter, result] at before
        simpa [traceAfter, EStateM.run_bind, result] using before
      | none =>
        cases override?_of_none result
        refine gated_of_run (named (present input.campaignId)) ?_
        simp [EStateM.run_bind, result]

/-- A call whose wallet has to be waited for waits, and has asked for nothing but its balance. -/
theorem route_of_waiting (asks : key ∈ (s.route input).trace.balanceReads)
    (balances : s.balances = some read)
    (waiting : key.refusal? = none → read key = .error .waiting) :
    s.route input = ⟨.error .waiting, readOnly key⟩ := by
  have trace : (s.route input).trace = (s.decide input).traceAfter .empty := by
    simp only [route, RouteM.routed, traceAfter]
    cases (s.decide input).run .empty <;> rfl
  rw [trace] at asks
  rcases s.gated_decide with unread | ⟨k, reader, own, named, reads, waits⟩
  · rw [unread] at asks
    cases asks
  · rw [reads] at asks
    cases List.mem_singleton.mp asks
    cases balances.symm.trans own
    simp only [route, RouteM.routed, waits (waiting named)]

end Surroundings

end CallExchange
