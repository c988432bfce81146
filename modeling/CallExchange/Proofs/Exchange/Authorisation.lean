import CallExchange.Proofs.Exchange.Retry
import CallExchange.Proofs.Ledger.Locks
import CallExchange.Proofs.Routing.Gate
import CallExchange.Proofs.Routing.Reasons

/-!
# What the balance gate authorises

The balance gate reads the projection of a wallet's balance, and compares its currency and its
amount with those of the call. A debit locks the wallet, compares the wallet's own currency, and
then looks for funds. The two come to the same in every state that the service reaches: there the
projection is in the wallet's currency, and it exists as soon as there is an entry. A wallet without
entries has no balance that the gate could read, and no funds that could be debited.

## Main definitions

* `Surroundings.Says` — the verdict of the gate
* `Surroundings.LetsThrough`, `Surroundings.Rejects` — the call goes on to the stages after the
  gate, or is rejected for a reason
* `Corresponds` — the verdict of the gate beside the receipt of a debit
* `Agreement` — the gate and a debit of the estimated cost agree

## Main results

* `receipt_of_fails` — what makes a posting fail is what it answers
* `corresponds_of_projected` — verdict and receipt for a wallet with a balance
* `agreement_of_run` — the gate agrees with the debit that it authorises
-/

namespace CallExchange

open Text

/-! ### What a debit comes to -/

namespace Ledger

variable {l : Ledger} {stamp : Stamp} {op : Op} {key : WalletKey} {p : Posting} {book : Book}
  {b : Balance}

/-- A posting in the wallet's currency that has got hold of the wallet replays its entry or writes
one. -/
theorem step_of_opens (stamp : Stamp) (posts : op.posting? = some (key, p))
    (opens : Opens l key p book) (currency : book.wallet.currency = p.currency) :
    ∃ wrap : Receipt → Answer, (∀ r, (wrap r).receipt? = some r) ∧
      step stamp l op = .ofPost wrap p
        (match Entry.find? book.entries p.idempotencyKey with
        | some stored => (replay key p (.opened key book) stored).run (.of l)
        | none => (write stamp key p (.opened key book)).run (.of l)) := by
  obtain ⟨wrap, wraps, stepped⟩ := step_of_posting l stamp posts
  obtain ⟨kind, rest⟩ := Option.or_eq_none_iff.mp opens.checked
  refine ⟨wrap, wraps, ?_⟩
  rw [stepped]
  simp only [kind, run_post, rest, Desk.of, opens.stored, opens.free, currency, ne_eq,
    not_true_eq_false, if_false]
  rfl

/-- What makes a posting fail is what it answers. -/
theorem receipt_of_fails {e : WalletError} (posts : op.posting? = some (key, p))
    (why : Fails l stamp.now key p e) : (step stamp l op).receipt = .error (.failed e) := by
  cases why with
  | objection found =>
    rw [posting_of_objection posts found]
    rfl
  | unknown checked missing =>
    obtain ⟨wrap, -, stepped⟩ := step_of_posting l stamp posts
    obtain ⟨kind, rest⟩ := Option.or_eq_none_iff.mp checked
    rw [stepped]
    simp only [kind, run_post, rest, Desk.of, missing]
    rfl
  | foreign opens differs =>
    obtain ⟨wrap, -, stepped⟩ := step_of_posting l stamp posts
    obtain ⟨kind, rest⟩ := Option.or_eq_none_iff.mp opens.checked
    rw [stepped]
    simp only [kind, run_post, rest, Desk.of, opens.stored, opens.free, if_pos differs]
    rfl
  | @unbalanced book _ opens currency used missing =>
    obtain ⟨wrap, -, stepped⟩ := step_of_opens stamp posts opens currency
    have bare : (Transaction.opened key book).balance = none := missing
    rw [stepped]
    simp only [used, run_replay, bare]
    rfl
  | short opens currency unused lacks =>
    obtain ⟨wrap, -, stepped⟩ := step_of_opens stamp posts opens currency
    rw [stepped]
    simp only [unused, run_write unused, lacks]
    rfl
  | overflow writes entryUnarmed deltaUnarmed exceeds =>
    obtain ⟨wrap, -, stepped⟩ := step_of_opens stamp posts writes.toOpens writes.currency
    rw [stepped]
    simp only [writes.unused, run_write writes.unused, writes.funded, Desk.of, entryUnarmed,
      deltaUnarmed, exceeds]
    rfl

/-- Nothing can be debited from a wallet without entries. -/
theorem fails_of_uncommitted (now : Instant) (sound : Sound l) (checked : p.objection? key = none)
    (free : l.isHeld key = false) (debits : p.kind = .debit) (nothing : committed l key = []) :
    ∃ e, Fails l now key p e := by
  cases stored : l.books key with
  | none => exact ⟨_, .unknown checked stored⟩
  | some book =>
    have opens : Opens l key p book := ⟨checked, stored, free⟩
    rw [committed_of_stored stored] at nothing
    by_cases currency : book.wallet.currency = p.currency
    · have unused : Entry.find? book.entries p.idempotencyKey = none := by
        simp [Entry.find?, nothing]
      have empty : book.balance = none := (sound key book stored).projected.mpr nothing
      -- no projection stands for zero, and the amount is more than that
      have positive : 0 < p.amount := by
        rw [Int64.lt_iff_toInt_lt]
        simpa using Posting.amount_pos_of_checked checked
      exact ⟨.insufficientFunds 0 p.amount, .short opens currency unused
        (by simp only [shortfall?, debits, empty, if_pos positive])⟩
    · exact ⟨_, .foreign opens currency⟩

/-- A reader is told the projection of a wallet that is free. -/
theorem read_of_free (named : key.refusal? = none) (free : l.isHeld key = false) :
    l.read key =
      match (l.books key).bind (·.balance) with
      | some b => .ok b
      | none => .error (.failed (.notFound (.balance key.walletId))) := by
  simp only [read, balance, storedBalance, EStateM.run_bind, run_refuse, named, run_book?, Desk.of]
  cases l.books key with
  | none => rfl
  | some book =>
    simp only [free]
    cases projected : book.balance <;> simp [projected]

end Ledger

/-! ### The verdict of the gate -/

namespace Surroundings

variable {s : Surroundings} {input : RouteInput} {reason : Reason} {verdict v : Option Reason}
  {t : RouteTrace}

/-- The gate comes to a verdict: a reason to reject the call, or none. -/
def Says (s : Surroundings) (input : RouteInput) (verdict : Option Reason) : Prop :=
  ∃ t, (s.rejection? input).run .empty = .ok verdict t

/-- The gate has no reason to reject the call, which goes on to the stages that follow. -/
def LetsThrough (s : Surroundings) (input : RouteInput) : Prop :=
  ∃ t, (s.rejection? input).run .empty = .ok none t ∧
    s.route input =
      (s.afterGate input.workspaceId input.campaign? input.inbound).routedFrom t

/-- The call is rejected for a reason. -/
def Rejects (s : Surroundings) (input : RouteInput) (reason : Reason) : Prop :=
  ∃ d, (s.route input).answer = .ok d ∧ d.action = .reject ∧ d.reason = some reason

theorem says_iff (run : (s.rejection? input).run .empty = .ok verdict t) :
    s.Says input v ↔ v = verdict := by
  constructor
  · rintro ⟨t', same⟩
    cases run.symm.trans same
    rfl
  · rintro rfl
    exact ⟨t, run⟩

theorem letsThrough_iff (ordinary : s.Ordinary input) :
    s.LetsThrough input ↔ s.Says input none := by
  constructor
  · rintro ⟨t, run, -⟩
    exact ⟨t, run⟩
  · rintro ⟨t, run⟩
    refine ⟨t, run, ?_⟩
    rw [route_of_ordinary ordinary, run]

/-- The two reasons of the gate are given by nobody else. -/
theorem rejects_iff (ordinary : s.Ordinary input)
    (own : reason = .walletCurrencyMismatch ∨ reason = .insufficientBalance) :
    s.Rejects input reason ↔ s.Says input (some reason) := by
  constructor
  · rintro ⟨d, answered, -, because⟩
    rcases barred_or_cleared ordinary with barred | ⟨reads, -, rest⟩
    · generalize s.route input = r at barred answered
      cases barred with
      | unwired | walletless | currencyless | waiting | failed => cases answered
      | foreign asks balance differs =>
        cases answered
        cases because
        have run := run_rejection?_of_asks asks
        simp only [balance, shortfall?, if_pos differs] at run
        exact ⟨_, run⟩
      | short asks balance same lacks =>
        cases answered
        cases because
        have run := run_rejection?_of_asks asks
        simp only [balance, shortfall?, same, ne_eq, not_true_eq_false, if_false,
          if_pos lacks] at run
        exact ⟨_, run⟩
    · -- what follows the gate has reasons of its own
      have judged : s.Judged input reads (s.route input) := rest ▸ judged_afterGate
      generalize s.route input = r at judged answered
      cases judged with
      | unwired | failed => cases answered
      | campaignless | undelivered | selected =>
        cases answered
        cases because
        simp at own
      | denied =>
        cases answered
        cases because
        simp [Reason.denied_eq] at own
  · rintro ⟨t, run⟩
    refine ⟨.reject input.workspaceId input.campaign? reason, ?_, rfl, rfl⟩
    rw [route_of_ordinary ordinary, run]

end Surroundings

/-! ### Verdict and receipt -/

/-- The receipt of a debit says what the verdict of the gate says. -/
inductive Corresponds : Option Reason → Except (Halt WalletError) (Option Receipt) → Prop
  | granted (r : Receipt) : Corresponds none (.ok (some r))
  | foreign (cause : Refusal) :
      Corresponds (some .walletCurrencyMismatch) (.error (.failed (.invalidArgument cause)))
  | short (available requested : Minor) :
      Corresponds (some .insufficientBalance)
        (.error (.failed (.insufficientFunds available requested)))

namespace Corresponds

variable {verdict : Option Reason} {receipt : Except (Halt WalletError) (Option Receipt)}

theorem granted_iff (corresponds : Corresponds verdict receipt) :
    none = verdict ↔ ∃ r, receipt = .ok (some r) := by
  cases corresponds <;> simp

theorem foreign_iff (corresponds : Corresponds verdict receipt) :
    some .walletCurrencyMismatch = verdict ↔
      ∃ cause, receipt = .error (.failed (.invalidArgument cause)) := by
  cases corresponds <;> simp

theorem short_iff (corresponds : Corresponds verdict receipt) :
    some .insufficientBalance = verdict ↔
      ∃ available requested,
        receipt = .error (.failed (.insufficientFunds available requested)) := by
  cases corresponds <;> simp

end Corresponds

open Ledger in
/-- Verdict and receipt for a wallet with a balance, when no fail point is armed. -/
theorem corresponds_of_projected {l : Ledger} {op : Op} {key : WalletKey} {p : Posting}
    {book : Book} {b : Balance} (stamp : Stamp) (posts : op.posting? = some (key, p))
    (debits : p.kind = .debit) (sound : book.Sound key) (opens : Opens l key p book)
    (projected : book.balance = some b)
    (unused : ∀ e ∈ book.entries, e.idempotencyKey ≠ p.idempotencyKey)
    (unarmed : ∀ point, l.armed point = false) :
    Corresponds (Surroundings.shortfall? b p.amount p.currency) (step stamp l op).receipt := by
  -- the gate compares the currency of the projection, the debit first that of the wallet
  have own : b.currency = book.wallet.currency := (sound.balance b projected).currency
  by_cases same : b.currency = p.currency
  · have currency : book.wallet.currency = p.currency := own.symm.trans same
    by_cases lacks : b.amount < p.amount
    · have found : Entry.find? book.entries p.idempotencyKey = none :=
        List.find?_eq_none.mpr fun e mem => by simpa using unused e mem
      have short : shortfall? p book.balance = some (.insufficientFunds b.amount p.amount) := by
        simp [shortfall?, debits, projected, same, lacks]
      rw [receipt_of_fails posts (.short opens currency found short), Surroundings.shortfall?,
        if_neg (not_not.mpr same), if_pos lacks]
      exact .short _ _
    · -- nothing but an armed fail point could still make the debit fail
      have funds : b.amount.toInt ≥ p.amount.toInt := by
        rw [Int64.not_lt, Int64.le_iff_toInt_le] at lacks
        exact lacks
      have bearable : p.Bearable book.funds := by
        simpa [Posting.Bearable, debits, Book.funds, projected] using funds
      have ready : Ready l key p book := sound.ready opens currency unused bearable
      obtain ⟨_, receipt, -, -⟩ :=
        ready.written stamp posts (List.find?_eq_none.mpr fun point _ => by simp [unarmed])
      rw [receipt, Surroundings.shortfall_eq_none_iff.mpr ⟨same, Int64.not_lt.mp lacks⟩]
      exact .granted _
  · have differs : book.wallet.currency ≠ p.currency := own ▸ same
    rw [receipt_of_fails posts (.foreign opens differs), Surroundings.shortfall?, if_pos same]
    exact .foreign _

/-- The gate and a debit of the estimated cost agree. -/
structure Agreement (s : Surroundings) (input : RouteInput) (key : WalletKey)
    (entries : List Entry) (debit : Ledger.Outcome) : Prop where
  passes : s.LetsThrough input ↔ ∃ r, debit.receipt = .ok (some r)
  short : entries ≠ [] →
    (s.Rejects input .insufficientBalance ↔
      ∃ available requested,
        debit.receipt = .error (.failed (.insufficientFunds available requested)))
  foreign : entries ≠ [] →
    (s.Rejects input .walletCurrencyMismatch ↔
      ∃ cause, debit.receipt = .error (.failed (.invalidArgument cause)))
  /-- Without entries, or without a wallet, neither goes ahead. -/
  unknown : entries = [] →
    (s.route input).answer = .error (.failed (.wallet (.notFound (.balance key.walletId)))) ∧
      ∃ e, debit.receipt = .error (.failed e)

section

variable {s : Surroundings} {input : RouteInput} {walletId : String} {read : BalanceReader}
  {r : PostingRequest} {l : Ledger}

/-- A debit of what the gate asks for is in order. -/
theorem checked_of_asks (named : ¬IsBlank input.workspaceId)
    (asks : s.Asks input r.amount walletId r.currency read) (keyed : ¬IsBlank r.idempotencyKey) :
    (Posting.ofDebit r).objection? ⟨input.workspaceId, walletId⟩ = none := by
  have wallet := Surroundings.refusal_of_present named asks.wallet
  have positive : 0 < r.amount := by simpa using (Option.filter_eq_some_iff.mp asks.charge).2
  have filled : isBlank r.currency = false := by
    simpa using (Option.filter_eq_some_iff.mp asks.currency).2
  simp [Posting.objection?, PostingKind.refusal?, Posting.ofDebit, wallet, Posting.refusal?,
    Int64.not_le.mpr positive, filled, keyed]

/-- A verdict and a receipt that correspond make gate and debit agree. -/
theorem agreement_of_corresponds {key : WalletKey} {entries : List Entry} {debit : Ledger.Outcome}
    {verdict : Option Reason} {t : RouteTrace} (ordinary : s.Ordinary input)
    (some_entry : entries ≠ []) (run : (s.rejection? input).run .empty = .ok verdict t)
    (corresponds : Corresponds verdict debit.receipt) :
    Agreement s input key entries debit where
  passes := by
    rw [Surroundings.letsThrough_iff ordinary, Surroundings.says_iff run, corresponds.granted_iff]
  short _ := by
    rw [Surroundings.rejects_iff ordinary (.inr rfl), Surroundings.says_iff run,
      corresponds.short_iff]
  foreign _ := by
    rw [Surroundings.rejects_iff ordinary (.inl rfl), Surroundings.says_iff run,
      corresponds.foreign_iff]
  unknown nothing := absurd nothing some_entry

/-- A wallet without entries is missing to the gate, and the debit fails. -/
theorem agreement_of_uncommitted {key : WalletKey} {debit : Ledger.Outcome} {e : WalletError}
    {t : RouteTrace} (ordinary : s.Ordinary input)
    (run : (s.rejection? input).run .empty =
      .error (.failed (.wallet (.notFound (.balance key.walletId)))) t)
    (failed : debit.receipt = .error (.failed e)) : Agreement s input key [] debit where
  passes := by
    constructor
    · rintro ⟨t', through, -⟩
      cases run.symm.trans through
    · rintro ⟨r, granted⟩
      cases failed.symm.trans granted
  short some_entry := absurd rfl some_entry
  foreign some_entry := absurd rfl some_entry
  unknown _ := ⟨by rw [Surroundings.route_of_ordinary ordinary, run], e, failed⟩

/-- Over sound books, the gate agrees with a debit of a wallet that is free. -/
theorem agreement_of_sound (sound : l.Sound)
    (free : l.isHeld ⟨input.workspaceId, walletId⟩ = false)
    (unarmed : ∀ point, l.armed point = false) (ordinary : s.Ordinary input)
    (asks : s.Asks input r.amount walletId r.currency l.read) (keyed : ¬IsBlank r.idempotencyKey)
    (unused : ∀ e ∈ Ledger.committed l ⟨input.workspaceId, walletId⟩,
      e.idempotencyKey ≠ r.idempotencyKey) (stamp : Stamp) :
    Agreement s input ⟨input.workspaceId, walletId⟩
      (Ledger.committed l ⟨input.workspaceId, walletId⟩)
      (Ledger.step stamp l (.debit ⟨input.workspaceId, walletId⟩ r)) := by
  have checked := checked_of_asks ordinary.named asks keyed
  have gate := Surroundings.run_rejection?_of_asks asks
  rw [Ledger.read_of_free (Surroundings.refusal_of_present ordinary.named asks.wallet) free] at gate
  cases projected : (l.books ⟨input.workspaceId, walletId⟩).bind (·.balance) with
  | none =>
    have nothing : Ledger.committed l ⟨input.workspaceId, walletId⟩ = [] := by
      cases stored : l.books ⟨input.workspaceId, walletId⟩ with
      | none => simp [Ledger.committed, stored]
      | some book =>
        rw [stored] at projected
        rw [Ledger.committed_of_stored stored]
        exact (sound _ book stored).projected.mp projected
    obtain ⟨e, fails⟩ := Ledger.fails_of_uncommitted stamp.now sound checked free rfl nothing
    rw [nothing]
    simp only [projected] at gate
    exact agreement_of_uncommitted ordinary gate (Ledger.receipt_of_fails rfl fails)
  | some b =>
    obtain ⟨book, stored, balance⟩ := Option.bind_eq_some_iff.mp projected
    have committed := Ledger.committed_of_stored stored
    have some_entry : book.entries ≠ [] := fun empty => by
      cases balance.symm.trans ((sound _ book stored).projected.mpr empty)
    simp only [projected] at gate
    rw [committed] at unused ⊢
    exact agreement_of_corresponds ordinary some_entry gate
      (corresponds_of_projected stamp rfl rfl (sound _ book stored) ⟨checked, stored, free⟩ balance
        unused unarmed)

/-- In every state that the service reaches with no fail point armed, the gate agrees with a debit
of the estimated cost under a new key. -/
theorem agreement_of_run {script : List (Stamp × Ledger.Op)}
    (served : ∀ o ∈ script, o.2.serves = true)
    (unarmed : ∀ point, (Ledger.run .empty script).2.armed point = false)
    (ordinary : s.Ordinary input)
    (asks : s.Asks input r.amount walletId r.currency (Ledger.run .empty script).2.read)
    (keyed : ¬IsBlank r.idempotencyKey)
    (unused : ∀ e ∈ Ledger.committed (Ledger.run .empty script).2 ⟨input.workspaceId, walletId⟩,
      e.idempotencyKey ≠ r.idempotencyKey) (stamp : Stamp) :
    Agreement s input ⟨input.workspaceId, walletId⟩
      (Ledger.committed (Ledger.run .empty script).2 ⟨input.workspaceId, walletId⟩)
      (Ledger.step stamp (Ledger.run .empty script).2
        (.debit ⟨input.workspaceId, walletId⟩ r)) :=
  agreement_of_sound (Ledger.sound_after served) (Ledger.free_of_closed (Ledger.held_after served))
    unarmed ordinary asks keyed unused stamp

/-- After the sample run the sample call passes the gate, and its cost can be debited. -/
theorem agreement_of_sampleRun :
    ∃ (s : Surroundings) (r : Receipt),
      s.balances = some (Ledger.run .empty Ledger.sampleRun).2.read ∧
      s.Ordinary sampleCall ∧ s.LetsThrough sampleCall ∧
      (Ledger.step (Ledger.sampleStamp 8) (Ledger.run .empty Ledger.sampleRun).2
        (.debit Ledger.sampleKey (Ledger.samplePosting 7 "later"))).receipt = .ok (some r) := by
  let s : Surroundings :=
    { sampleSurroundings with balances := some (Ledger.run .empty Ledger.sampleRun).2.read }
  have ordinary : s.Ordinary sampleCall :=
    ⟨⟨by decide, fun _ some => by cases some⟩, rfl⟩
  have agreement := agreement_of_run (r := Ledger.samplePosting 7 "later") (by decide)
    (fun point => by cases point <;> rfl) ordinary ⟨rfl, rfl, rfl, rfl⟩ (by decide)
    (by decide) (Ledger.sampleStamp 8)
  exact ⟨s, _, rfl, ordinary, agreement.passes.mpr ⟨_, rfl⟩, rfl⟩

end

end CallExchange
