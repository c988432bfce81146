import CallExchange.Proofs.Exchange.Ledger
import CallExchange.Proofs.Ledger.Actions
import CallExchange.Proofs.Ledger.Growth

/-!
# Repeated idempotency keys

An entry that has been posted under a key remains the answer to that key. Books only grow, so that
the entry is still found when the key comes again, and a used key is looked up before funds, limits
or fail points are.

## Main results

* `replayed_of_used` — a posting with a used key changes nothing and shows the stored entry
* `stored_of_posted` — what a posting has written is still there after any run
* `find_action_of_run` — the action of an entry is the one that was recorded with it
* `replay_of_posted` — a key that has been posted under is replayed for ever
-/

namespace CallExchange

namespace Ledger

variable {l : Ledger} {stamp : Stamp} {op : Op} {key : WalletKey} {p q : Posting} {book : Book}

/-- A posting with a used key is a replay, whatever its amount, its kind and the fail points. -/
theorem replayed_of_used {e : Entry} {b : Balance} (stamp : Stamp)
    (posts : op.posting? = some (key, q))
    (opens : Opens l key q book) (currency : book.wallet.currency = q.currency)
    (used : Entry.find? book.entries q.idempotencyKey = some e) (balance : book.balance = some b) :
    (step stamp l op).receipt =
        .ok (some ⟨e, b, q.storedAction? (.opened key book) e, true⟩) ∧
      (step stamp l op).ledger = l ∧ (step stamp l op).reports = [] := by
  have unwritten {other : Book} (writes : Writes l key q other) : False := by
    cases opens.stored.symm.trans writes.stored
    cases used.symm.trans writes.unused
  -- each of the other ends contradicts one of the hypotheses
  cases posted_step l stamp posts with
  | failed why =>
    cases why with
    | objection found => cases opens.checked.symm.trans found
    | unknown _ missing => cases opens.stored.symm.trans missing
    | foreign others differs =>
      cases opens.stored.symm.trans others.stored
      exact absurd currency differs
    | unbalanced others _ _ missing =>
      cases opens.stored.symm.trans others.stored
      cases balance.symm.trans missing
    | short others _ unused =>
      cases opens.stored.symm.trans others.stored
      cases used.symm.trans unused
    | overflow writes => exact (unwritten writes).elim
  | waited _ _ held => cases opens.free.symm.trans held
  | tripped writes => exact (unwritten writes).elim
  | replayed others _ found projected answer ledger reports =>
    cases opens.stored.symm.trans others.stored
    cases used.symm.trans found
    cases balance.symm.trans projected
    exact ⟨answer, ledger, reports⟩
  | written writes => exact (unwritten writes).elim

/-- What a posting has written is still there after any run: the entry under its key, a balance, and
the action. -/
theorem stored_of_posted {before : List (Stamp × Op)} (more : List (Stamp × Op)) {r : Receipt}
    (posts : op.posting? = some (key, p))
    (answered : (step stamp (after .empty before) op).receipt = .ok (some r))
    (fresh : r.replayed = false) :
    ∃ book, (after .empty (before ++ (stamp, op) :: more)).books key = some book ∧
      Entry.find? book.entries p.idempotencyKey = some r.entry ∧ book.balance.isSome ∧
      r.entry = p.entry stamp key ∧ ∀ a, p.action? stamp key = some a → a ∈ book.actions := by
  obtain ⟨old, b, writes, -, rfl, ledger⟩ := written_of_receipt posts answered fresh
  have exclusive : Exclusive (step stamp (after .empty before) op).ledger :=
    (exclusive_after before).step stamp op
  have written : (step stamp (after .empty before) op).ledger.books key =
      some (old.recorded (p.entry stamp key) b (p.action? stamp key)) := by
    rw [ledger, books_withBook_self]
  -- from here on the book only grows
  obtain ⟨book, stored, extended⟩ := grows_after exclusive more key _ written
  refine ⟨book, ?_, extended.stored ?_, extended.balance rfl, rfl, fun a action => ?_⟩
  · rw [after_append, after_cons]
    exact stored
  · have unused := writes.unused
    simp only [Entry.find?] at unused
    simp [Book.recorded, Entry.find?, unused]
  · exact extended.actions.subset (by simp [Book.recorded, action])

theorem storedAction_opened {e : Entry} :
    q.storedAction? (.opened key book) e =
      match q.kind with
      | .adminCredit .. => AdminAction.find? book.actions e.id
      | .credit | .debit => none := by
  cases kind : q.kind <;>
    simp [Posting.storedAction?, Transaction.action?, Transaction.actions, Transaction.opened, kind]

/-- In a run of the service the action of an entry is the one that was recorded with it, if
identifiers do not repeat. -/
theorem find_action_of_run {script : List (Stamp × Op)} (served : ∀ s ∈ script, s.2.serves = true)
    (distinct : (script.map (·.1.entryId)).Nodup) (mem : (stamp, op) ∈ script)
    (posts : op.posting? = some (key, p)) (stored : (after .empty script).books key = some book)
    (kept : ∀ a, p.action? stamp key = some a → a ∈ book.actions) :
    AdminAction.find? book.actions stamp.entryId = p.action? stamp key := by
  -- an action that names the entry was recorded by the operation with that entry's identifier
  have only : ∀ a ∈ book.actions, a.relatedLedgerId = some stamp.entryId →
      p.action? stamp key = some a := by
    intro a recorded related
    rw [← committedActions_of_stored stored] at recorded
    obtain ⟨-, -, -, s, run, q, posting, -, author⟩ := author_of_action served recorded
    have same : s.1.entryId = stamp.entryId :=
      Option.some.inj ((relatedLedgerId_of_action author).symm.trans related)
    cases List.inj_on_of_nodup_map distinct run mem same
    cases posting.symm.trans posts
    exact author
  cases action : p.action? stamp key with
  | none =>
    refine List.find?_eq_none.mpr fun a recorded related => ?_
    cases action.symm.trans (only a recorded (by simpa using related))
  | some a =>
    have related := relatedLedgerId_of_action action
    cases found : AdminAction.find? book.actions stamp.entryId with
    | none => exact absurd related (by simpa using List.find?_eq_none.mp found a (kept a action))
    | some other =>
      have other_related : other.relatedLedgerId = some stamp.entryId := by
        simpa using List.find?_some found
      exact (only other (List.mem_of_find?_eq_some found) other_related).symm.trans action

end Ledger

namespace Exchange

/-- Once an entry has been posted under a key, every later request with that key that is in order is
answered with that entry and the present balance, and changes nothing. Of an administrator's credit
the answer shows the action that was recorded with the entry. Transactions may have been open
meanwhile, as long as none holds the wallet now. -/
theorem replay_of_posted {x : Exchange} {before more : List (Stamp × Ledger.Op)} {stamp : Stamp}
    {first : Ledger.Op} {key : WalletKey} {p : Posting} {r : Receipt}
    (ledger : x.ledger = (Ledger.run .empty (before ++ (stamp, first) :: more)).2)
    (free : (∀ s ∈ before ++ (stamp, first) :: more, s.2.serves = true) ∨
      x.ledger.isHeld key = false)
    (posts : first.posting? = some (key, p))
    (answered : (Ledger.step stamp (Ledger.run .empty before).2 first).receipt = .ok (some r))
    (fresh : r.replayed = false) :
    ∃ book, x.ledger.books key = some book ∧ r.entry ∈ book.entries ∧
      ∀ (again : Ledger.Op) (q : Posting), again.posting? = some (key, q) →
        q.idempotencyKey = p.idempotencyKey → q.objection? key = none →
        q.currency = book.wallet.currency →
        ∃ answer receipt, (x.step (.ledger again)).answer = .ledger (.ok answer) ∧
          answer.receipt? = some receipt ∧ receipt.replayed = true ∧ receipt.entry = r.entry ∧
          book.balance = some receipt.balance ∧
          (x.step (.ledger again)).next.ledger = x.ledger ∧
          (x.step (.ledger again)).next.trail = x.trail ∧
          ((∀ s ∈ before ++ (stamp, first) :: more, s.2.serves = true) →
            ((before ++ (stamp, first) :: more).map (·.1.entryId)).Nodup →
            receipt.action = match q.kind with
              | .adminCredit .. => p.action? stamp key
              | .credit | .debit => none) := by
  obtain ⟨book, stored, used, projected, entry, kept⟩ :=
    Ledger.stored_of_posted more posts answered fresh
  have place : x.ledger.books key = some book := by
    rw [ledger]
    exact stored
  -- a run of the service holds no wallet at its end
  have held : x.ledger.isHeld key = false := by
    refine free.elim (fun served => ?_) id
    rw [ledger]
    exact Ledger.free_of_closed (Ledger.held_after served)
  obtain ⟨b, balance⟩ := Option.isSome_iff_exists.mp projected
  refine ⟨book, place, List.mem_of_find?_eq_some used, ?_⟩
  intro again q repeats same checked currency
  obtain ⟨receipt, unchanged, unreported⟩ := Ledger.replayed_of_used x.stamp repeats
    ⟨checked, place, held⟩ currency.symm (same ▸ used) balance
  obtain ⟨answer, answered, shown⟩ := Ledger.Outcome.answer_of_receipt receipt
  refine ⟨answer, _, congrArg Answer.ledger answered, shown, rfl, rfl, balance, unchanged,
    trail_of_unreported unreported, fun served distinct => ?_⟩
  rw [Ledger.storedAction_opened, entry, Posting.id_entry,
    Ledger.find_action_of_run served distinct (by simp) posts stored kept]

/-- The wallet of the sample, before a refund. -/
def opening : List (Stamp × Ledger.Op) :=
  [(Ledger.sampleStamp 0, .createWallet (Ledger.sampleWallet Ledger.sampleKey))]

/-- After the refund, the wallet is emptied and a fail point is armed. -/
def closing : List (Stamp × Ledger.Op) :=
  [(Ledger.sampleStamp 2, .debit Ledger.sampleKey (Ledger.samplePosting 40 "call")),
    (Ledger.sampleStamp 3, .failNext .insertEntry)]

/-- An exchange in which a refund has been spent. -/
def refunded : Exchange :=
  sample (Ledger.run .empty (opening ++ (Ledger.sampleStamp 1, sampleRefund) :: closing)).2 4

/-- The key of the refund comes again, with a debit that nothing is left for and with another
administrator's credit. -/
theorem replay_of_refund :
    ∃ r, (Ledger.step (Ledger.sampleStamp 1) (Ledger.run .empty opening).2 sampleRefund).receipt =
        .ok (some r) ∧ r.replayed = false ∧ r.action.isSome ∧
      (∃ answer receipt,
        (refunded.step (.ledger (.debit Ledger.sampleKey
          (Ledger.samplePosting Int64.maxValue "refund")))).answer = .ledger (.ok answer) ∧
        answer.receipt? = some receipt ∧ receipt.entry = r.entry ∧ receipt.action = none) ∧
      ∃ answer receipt,
        (refunded.step (.ledger (.adminCredit Ledger.sampleKey ⟨"other", .networkOperator⟩
          ⟨7, "USD", "again", "refund", none⟩))).answer = .ledger (.ok answer) ∧
        answer.receipt? = some receipt ∧ receipt.entry = r.entry ∧ receipt.action = r.action := by
  have served : ∀ s ∈ opening ++ (Ledger.sampleStamp 1, sampleRefund) :: closing,
      s.2.serves = true := by decide
  have distinct : ((opening ++ (Ledger.sampleStamp 1, sampleRefund) :: closing).map
      (·.1.entryId)).Nodup := by decide
  have posts : sampleRefund.posting? = some (Ledger.sampleKey, _) := rfl
  obtain ⟨book, stored, -, replay⟩ :=
    replay_of_posted (x := refunded) rfl (.inl served) posts rfl rfl
  cases stored
  obtain ⟨a, receipt, answer, shown, -, entry, -, -, -, action⟩ := replay
    (.debit Ledger.sampleKey (Ledger.samplePosting Int64.maxValue "refund"))
    _ rfl rfl (by decide) rfl
  obtain ⟨a', receipt', answer', shown', -, entry', -, -, -, action'⟩ := replay
    (.adminCredit Ledger.sampleKey ⟨"other", .networkOperator⟩ ⟨7, "USD", "again", "refund", none⟩)
    _ rfl rfl (by decide) rfl
  exact ⟨_, rfl, rfl, rfl, ⟨a, receipt, answer, shown, entry, action served distinct⟩,
    a', receipt', answer', shown', entry', action' served distinct⟩

end Exchange

end CallExchange
