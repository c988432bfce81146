import CallExchange.Proofs.Exchange.Replay

/-!
# Keys that are used again for something else

A posting whose idempotency key has been used is answered with the stored entry, whatever it asks
for. That it asks for something else is noted in the log, but only where the amount or the type
differ: nobody looks at the reference and the free-form data of the stored entry.

## Main definitions

* `Parameters` — what a posting asks for, and what a stored entry says, beside wallet, currency and
  key
* `Exchange.WarnsOfReuse` — an operation of the ledger is answered with the warning in the log

## Main results

* `Ledger.log_of_replayed` — all that a replay writes to the log
* `Exchange.warns_of_replayed` — when a replay warns, and when it should
-/

namespace CallExchange

/-- What a posting asks for, beside its wallet, its currency and its key. -/
structure Parameters where
  /-- Signed. -/
  amount : Minor
  entryType : EntryType
  externalRef : Option String
  metadata : Option Json

/-- The parameters that an entry was written with. -/
def Entry.parameters (e : Entry) : Parameters := ⟨e.amount, e.entryType, e.externalRef, e.metadata⟩

/-- The parameters of a posting. -/
def Posting.parameters (p : Posting) : Parameters :=
  ⟨p.signed, p.kind.entryType, p.externalRef, p.metadata⟩

namespace Ledger

variable {l : Ledger} {stamp : Stamp} {op : Op} {key : WalletKey} {p : Posting} {r : Receipt}

/-- A replay writes to the log that it is one, and before that, where the amount or the type of the
stored entry differ, that the key has been used for something else. -/
theorem log_of_replayed (posts : op.posting? = some (key, p))
    (answered : (step stamp l op).receipt = .ok (some r)) (replayed : r.replayed = true) :
    (step stamp l op).log =
        (if r.entry.amount ≠ p.signed ∨ r.entry.entryType ≠ p.kind.entryType then
          [.keyReused key p.idempotencyKey r.entry.amount p.signed]
        else []) ++ [.replayed key r.entry.id] ∧
      (step stamp l op).reports = [] := by
  -- only one of the five ends answers with a receipt that says so
  cases posted_step l stamp posts with
  | failed _ answer => cases answered.symm.trans answer
  | waited _ _ _ answer => cases answered.symm.trans answer
  | tripped _ _ answer => cases answered.symm.trans answer
  | written _ _ _ answer =>
    cases answered.symm.trans answer
    cases replayed
  | @replayed book stored b opens currency used balance answer _ reports =>
    cases answered.symm.trans answer
    refine ⟨?_, reports⟩
    obtain ⟨kind, checked⟩ := Option.or_eq_none_iff.mp opens.checked
    have committed : Transaction.balance (.opened key book) = some b := by
      simp [Transaction.balance, Transaction.opened, balance]
    obtain ⟨wrap, -, outcome⟩ := step_of_posting l stamp posts
    simp only [outcome, kind, run_post, Desk.of, checked, opens.stored, opens.free, currency, used,
      run_replay, committed]
    by_cases differs : stored.amount ≠ p.signed ∨ stored.entryType ≠ p.kind.entryType <;>
      simp [differs, Outcome.ofPost]

end Ledger

namespace Exchange

variable {x : Exchange} {op : Ledger.Op} {key : WalletKey} {p : Posting} {r : Receipt}

/-- The operation of the ledger leaves a warning in the log that its key has been used for something
else. -/
def WarnsOfReuse (x : Exchange) (op : Ledger.Op) : Prop :=
  ∃ line ∈ (x.step (.ledger op)).log,
    line.level = .warn ∧ line.message = "Idempotency key reused with different parameters"

theorem log_of_unreported (unreported : (Ledger.step x.stamp x.ledger op).reports = []) :
    (x.step (.ledger op)).log = (Ledger.step x.stamp x.ledger op).log := by
  simp only [step, stepLedger, unreported, actionEvents, List.map_nil, tellAll, List.append_nil]

/-- A replay warns if and only if the amount or the type of the stored entry differ from those of
the posting. So a warning is never wrong. It is missing for a posting with other parameters if and
only if amount and type are the same, and the reference or the free-form data are not. -/
theorem warns_of_replayed {answer : Ledger.Answer} (posts : op.posting? = some (key, p))
    (answered : (x.step (.ledger op)).answer = .ledger (.ok answer))
    (shown : answer.receipt? = some r) (replayed : r.replayed = true) :
    (x.WarnsOfReuse op ↔
        r.entry.amount ≠ p.signed ∨ r.entry.entryType ≠ p.kind.entryType) ∧
      (x.WarnsOfReuse op → r.entry.parameters ≠ p.parameters) ∧
      (r.entry.parameters ≠ p.parameters ∧ ¬x.WarnsOfReuse op ↔
        r.entry.amount = p.signed ∧ r.entry.entryType = p.kind.entryType ∧
          (r.entry.externalRef ≠ p.externalRef ∨ r.entry.metadata ≠ p.metadata)) := by
  have receipt : (Ledger.step x.stamp x.ledger op).receipt = .ok (some r) := by
    rw [Ledger.Outcome.receipt, Exchange.Answer.ledger.inj answered]
    exact congrArg Except.ok shown
  obtain ⟨written, unreported⟩ := Ledger.log_of_replayed posts receipt replayed
  have warns : x.WarnsOfReuse op ↔
      r.entry.amount ≠ p.signed ∨ r.entry.entryType ≠ p.kind.entryType := by
    rw [WarnsOfReuse, log_of_unreported unreported, written]
    by_cases differs : r.entry.amount ≠ p.signed ∨ r.entry.entryType ≠ p.kind.entryType
    · simp [differs, LogEvent.level, LogEvent.message]
    · simp [differs, LogEvent.level]
  have same : r.entry.parameters = p.parameters ↔
      r.entry.amount = p.signed ∧ r.entry.entryType = p.kind.entryType ∧
        r.entry.externalRef = p.externalRef ∧ r.entry.metadata = p.metadata := by
    simp only [Entry.parameters, Posting.parameters, Parameters.mk.injEq]
  refine ⟨warns, fun warned => ?_, ?_⟩
  · rw [Ne, same]
    rcases warns.mp warned with amount | type
    · exact fun all => amount all.1
    · exact fun all => type all.2.1
  · rw [warns, Ne, same]
    tauto

/-- A credit of the sample wallet for an invoice. -/
def invoiceCredit (invoice : String) : Ledger.Op :=
  .credit Ledger.sampleKey ⟨40, "USD", some invoice, "top-up", none⟩

/-- An exchange in which the sample wallet has been credited for an invoice. -/
def credited : Exchange :=
  sample (Ledger.run .empty (opening ++ [(Ledger.sampleStamp 1, invoiceCredit "invoice 1")])).2 2

/-- A debit under the key of the credit warns. -/
theorem warns_of_debit :
    ∃ r, (credited.step (.ledger (.debit Ledger.sampleKey
          (Ledger.samplePosting 40 "top-up")))).answer = .ledger (.ok (.receipt r)) ∧
      r.replayed = true ∧
      credited.WarnsOfReuse (.debit Ledger.sampleKey (Ledger.samplePosting 40 "top-up")) :=
  ⟨_, rfl, rfl, (warns_of_replayed rfl rfl rfl rfl).1.mpr (.inl (by decide))⟩

/-- Nobody is warned that the same amount is credited for another invoice under the same key. -/
theorem silent_of_other_invoice :
    ∃ r, (credited.step (.ledger (invoiceCredit "invoice 2"))).answer =
        .ledger (.ok (.receipt r)) ∧
      r.replayed = true ∧ r.entry.externalRef = some "invoice 1" ∧
      ¬credited.WarnsOfReuse (invoiceCredit "invoice 2") := by
  refine ⟨_, rfl, rfl, rfl, ?_⟩
  rintro ⟨line, mem, warns, -⟩
  cases List.mem_singleton.mp mem
  cases warns

end Exchange

end CallExchange
