import CallExchange.Proofs.Exchange.Requests
import CallExchange.Proofs.Ledger.Actions

/-!
# Audit events of administrators

What an administrator does to a wallet is written three times: as an entry, as an action in the
wallet's book, and as an event for the audit trail. Entry and action are committed together. The
event is handed over outside of the transaction, but only after the commit and only if the request
has not been a replay, so that a sink that keeps everything has one event for each action, in the
order of the commits.

## Main definitions

* `Exchange.commits` — the actions that requests commit, over all wallets
* `Exchange.grants` — the actions that answers call new
* `AuditTrail.Listens` — the sink keeps everything
* `Exchange.Correspond` — entries, actions, answers and events correspond

## Main results

* `kept_tellAll` — what is told is kept
* `kept_serve`, `filed_serve`, `grants_serve` — the audit trail, the books and the answers agree
  with the commits
* `actions_correspond` — entries, actions, answers and events correspond in every run
-/

namespace CallExchange

/-- The sink keeps every event. -/
def AuditTrail.Listens (t : AuditTrail) : Prop :=
  ∃ refusal offers, t.sink = some (.direct refusal offers) ∧ ∀ n, refusal n = none

namespace Exchange

variable {x : Exchange} {requests : List Request} {key : WalletKey}

/-- The actions that are committed while requests are served, in the order of their commits. -/
def commits (x : Exchange) : List Request → List AdminAction
  | [] => []
  | q :: rest =>
    Ledger.newActions x.ledger (x.request q).next.ledger q.2 ++ commits (x.request q).next rest

/-- The wallet and the action in a result that acknowledges a new credit by an administrator. -/
def granted? (q : Request) (r : Result) : Option (WalletKey × Option AdminAction) :=
  match r.answer with
  | .ledger answer => q.2.granted? answer
  | _ => none

/-- The new credits by administrators that the results of requests acknowledge, in order. -/
def grants (requests : List Request) (results : List Result) :
    List (WalletKey × Option AdminAction) :=
  (requests.zip results).filterMap fun (q, r) => granted? q r

/-! ### One request -/

theorem reported_request {q : Request} (serves : q.2.serves = true) :
    Ledger.Reported x.ledger q.2 (Ledger.step (x.later q.1).stamp x.ledger q.2) :=
  Ledger.reported_step x.ledger (x.later q.1).stamp serves

/-- A sink that keeps every event keeps what it is told, and goes on to do so. -/
theorem kept_tellAll {t : AuditTrail} (listens : t.Listens)
    (events : List (AuditEvent × (AuditError → LogEvent))) :
    (tellAll t events).2.kept = t.kept ++ events.map (·.1) ∧ (tellAll t events).2.Listens := by
  induction events generalizing t with
  | nil => exact ⟨(List.append_nil _).symm, listens⟩
  | cons event rest ih =>
    obtain ⟨e, refused⟩ := event
    obtain ⟨refusal, offers, sink, keeps⟩ := listens
    have told : (t.tell e refused).2 =
        { t with sink := some (.direct refusal (offers + 1)), kept := t.kept ++ [e] } := by
      simp only [AuditTrail.tell, AuditTrail.offer, sink, keeps]
    have listening : (t.tell e refused).2.Listens := by
      rw [told]
      exact ⟨refusal, offers + 1, rfl, keeps⟩
    obtain ⟨kept, still⟩ := ih listening
    refine ⟨?_, still⟩
    have first : (t.tell e refused).2.kept = t.kept ++ [e] := by rw [told]
    calc (tellAll t ((e, refused) :: rest)).2.kept
        = (tellAll (t.tell e refused).2 rest).2.kept := rfl
      _ = t.kept ++ [e] ++ rest.map (·.1) := by rw [kept, first]
      _ = t.kept ++ ((e, refused) :: rest).map (·.1) := by simp

/-- The event of an action, as the audit trail keeps it. -/
def eventOf (a : AdminAction) : AuditEvent := .adminAction a.toEvent

/-- A request is told to the audit trail by the actions that it commits. -/
theorem kept_request {q : Request} (serves : q.2.serves = true) (listens : x.trail.Listens) :
    (x.request q).next.trail.kept = x.trail.kept ++
        (Ledger.newActions x.ledger (x.request q).next.ledger q.2).map eventOf ∧
      (x.request q).next.trail.Listens := by
  obtain ⟨kept, still⟩ := kept_tellAll listens
    (actionEvents (Ledger.step (x.later q.1).stamp x.ledger q.2).reports)
  have events : (actionEvents (Ledger.step (x.later q.1).stamp x.ledger q.2).reports).map (·.1) =
      (Ledger.newActions x.ledger (x.request q).next.ledger q.2).map eventOf := by
    rw [actionEvents, List.map_map, ← (reported_request (x := x) serves).gained]
    rfl
  rw [events] at kept
  exact ⟨kept, still⟩

/-- A request whose answer calls no credit of an administrator new is not told. -/
theorem kept_request_of_silent {q : Request} (serves : q.2.serves = true)
    (listens : x.trail.Listens) (silent : granted? q (x.request q) = none) :
    (x.request q).next.trail.kept = x.trail.kept := by
  have reported := reported_request (x := x) serves
  have granted := reported.granted
  rw [← reported.gained] at granted
  have answer : q.2.granted? (Ledger.step (x.later q.1).stamp x.ledger q.2).answer = none := silent
  rw [answer, Option.toList_none] at granted
  -- nothing is granted, so that nothing has been committed
  have nothing : Ledger.newActions x.ledger (x.request q).next.ledger q.2 = [] :=
    List.map_eq_nil_iff.mp granted.symm
  rw [(kept_request serves listens).1, nothing, List.map_nil, List.append_nil]

/-- The receipt in the answer to a request is that of the operation of the ledger. -/
theorem receipt_of_request {q : Request} {answer : Ledger.Answer} {receipt : Receipt}
    (answered : (x.request q).answer = .ledger (.ok answer))
    (shown : answer.receipt? = some receipt) :
    (Ledger.step (x.later q.1).stamp x.ledger q.2).receipt = .ok (some receipt) := by
  have own : (Ledger.step (x.later q.1).stamp x.ledger q.2).answer = .ok answer :=
    Answer.ledger.inj answered
  rw [Ledger.Outcome.receipt, own]
  exact congrArg Except.ok shown

/-! ### Runs of requests -/

/-- A sink that keeps everything has the events of the actions that have been committed. -/
theorem kept_serve (served : ∀ q ∈ requests, q.2.serves = true) (listens : x.trail.Listens) :
    (x.serve requests).2.trail.kept = x.trail.kept ++ (x.commits requests).map eventOf ∧
      (x.serve requests).2.trail.Listens := by
  induction requests generalizing x with
  | nil => exact ⟨(List.append_nil _).symm, listens⟩
  | cons q rest ih =>
    obtain ⟨first, listening⟩ := kept_request (served q List.mem_cons_self) listens
    obtain ⟨kept, still⟩ := ih (fun t mem => served t (List.mem_cons_of_mem q mem)) listening
    refine ⟨?_, still⟩
    rw [first, List.append_assoc] at kept
    rw [commits, List.map_append]
    exact kept

/-- The actions in the book of a wallet are the commits that concern it. -/
theorem filed_serve (served : ∀ q ∈ requests, q.2.serves = true) (key : WalletKey) :
    Ledger.committedActions (x.serve requests).2.ledger key =
      Ledger.committedActions x.ledger key ++ (x.commits requests).filter fun a => a.key = key := by
  induction requests generalizing x with
  | nil => exact (List.append_nil _).symm
  | cons q rest ih =>
    have reported := reported_request (x := x) (served q List.mem_cons_self)
    have filed := reported.filed key
    rw [← reported.gained] at filed
    have later := ih (x := (x.request q).next) fun t mem => served t (List.mem_cons_of_mem q mem)
    rw [commits, List.filter_append, ← List.append_assoc]
    exact later.trans (congrArg (· ++ _) filed)

/-- The answers call new what is committed. -/
theorem grants_serve (served : ∀ q ∈ requests, q.2.serves = true) :
    grants requests (x.serve requests).1 = (x.commits requests).map fun a => (a.key, some a) := by
  induction requests generalizing x with
  | nil => rfl
  | cons q rest ih =>
    have reported := reported_request (x := x) (served q List.mem_cons_self)
    have granted := reported.granted
    rw [← reported.gained] at granted
    have later := ih (x := (x.request q).next) fun t mem => served t (List.mem_cons_of_mem q mem)
    have split : grants (q :: rest) (x.serve (q :: rest)).1 =
        (granted? q (x.request q)).toList ++ grants rest ((x.request q).next.serve rest).1 := by
      simp only [grants, serve, List.zip_cons_cons, List.filterMap_cons]
      cases granted? q (x.request q) <;> rfl
    rw [split, later, commits, List.map_append]
    exact congrArg (· ++ _) granted

/-- Entries, actions, answers and events of administrators correspond while requests are served. -/
structure Correspond (x : Exchange) (requests : List Request) : Prop where
  /-- Each action in a book is the record of an entry of its own. -/
  paired : ∀ key, Ledger.Paired (Ledger.committed (x.serve requests).2.ledger key)
    (Ledger.committedActions (x.serve requests).2.ledger key)
  /-- The answers that acknowledge new credits by administrators show these actions, in order. -/
  granted : ∀ key, ((grants requests (x.serve requests).1).filter fun g => g.1 = key).map (·.2) =
    (Ledger.committedActions (x.serve requests).2.ledger key).map some
  /-- The entry of a new credit or debit has no action in any book. -/
  ordinary : ∀ {i : Nat} {q : Request} {key : WalletKey} {p : Posting} {r : Result}
      {answer : Ledger.Answer} {receipt : Receipt}, requests[i]? = some q →
    q.2.posting? = some (key, p) → p.kind = .credit ∨ p.kind = .debit →
    (x.serve requests).1[i]? = some r → r.answer = .ledger (.ok answer) →
    answer.receipt? = some receipt → receipt.replayed = false → receipt.action = none ∧
      ∀ wallet, ∀ a ∈ Ledger.committedActions (x.serve requests).2.ledger wallet,
        a.relatedLedgerId ≠ some receipt.entry.id
  /-- The sink has one event for each action, in the order of the commits. It names the wallet, who
  has acted in which role, what was done and why, the amount, the entry and the time. -/
  kept : (x.serve requests).2.trail.kept = x.trail.kept ++ (x.commits requests).map fun a =>
    .adminAction {
      workspaceId := a.workspaceId
      walletId := a.walletId
      adminUserId := a.adminUserId
      adminRole := a.adminRole
      action := a.action
      amount := a.amount
      currency := a.currency
      reason := a.reason
      ledgerEntryId := a.relatedLedgerId
      occurredAt := a.createdAt }
  /-- These actions are the ones that the books have. -/
  filed : ∀ key, (x.commits requests).filter (fun a => a.key = key) =
    Ledger.committedActions (x.serve requests).2.ledger key
  /-- Whatever does not acknowledge a new credit by an administrator adds no event. -/
  silent : ∀ {i : Nat} {q : Request} {r : Result}, requests[i]? = some q →
    (x.serve requests).1[i]? = some r → granted? q r = none →
    r.next.trail.kept = (x.serve (requests.take i)).2.trail.kept

/-- In every run of the service entries, actions, answers and events of administrators correspond,
if the identifiers of entries do not repeat and the sink keeps everything. -/
theorem actions_correspond (empty : x.ledger = .empty)
    (served : ∀ q ∈ requests, q.2.serves = true)
    (distinct : ((List.range' x.operations requests.length).map x.ids.entry).Nodup)
    (listens : x.trail.Listens) : Correspond x requests := by
  have ledger : (x.serve requests).2.ledger = Ledger.after .empty (x.script requests) :=
    empty ▸ ledger_serve requests
  have serves := serves_script (x := x) served
  have ids : ((x.script requests).map (·.1.entryId)).Nodup := entryIds_script requests ▸ distinct
  have filed (key : WalletKey) : (x.commits requests).filter (fun a => a.key = key) =
      Ledger.committedActions (x.serve requests).2.ledger key := by
    rw [filed_serve served key, empty]
    rfl
  refine ⟨fun key => ?_, fun key => ?_, ?_, (kept_serve served listens).1, filed, ?_⟩
  · rw [ledger]
    exact Ledger.paired_after serves ids
  · rw [grants_serve served, List.filter_map, List.map_map, ← filed key]
    rfl
  · intro i q key p r answer receipt asked posts ordinary result answered shown fresh
    obtain rfl := result_of_serve asked result
    obtain ⟨book, b, -, -, rfl, -⟩ :=
      Ledger.written_of_receipt posts (receipt_of_request answered shown) fresh
    refine ⟨?_, fun wallet a recorded => ?_⟩
    · rcases ordinary with kind | kind <;> simp only [Posting.action?, kind]
    · rw [ledger] at recorded
      have placed := List.mem_of_getElem? (script_getElem? (x := x) asked)
      exact Ledger.undocumented_of_run serves ids placed posts ordinary recorded
  · intro i q r asked result silent
    obtain rfl := result_of_serve asked result
    have before : ∀ q ∈ requests.take i, q.2.serves = true :=
      fun q mem => served q (List.mem_of_mem_take mem)
    exact kept_request_of_silent (served q (List.mem_of_getElem? asked))
      (kept_serve before listens).2 silent

/-- A refund that is interrupted, made and repeated, and a charge. -/
def sampleRequests : List Request :=
  [(.start, .createWallet (Ledger.sampleWallet Ledger.sampleKey)), (.start, .failNext .commit),
    (.start, sampleRefund), (.start, sampleRefund), (.start, sampleRefund),
    (.start, .debit Ledger.sampleKey (Ledger.samplePosting 7 "call"))]

/-- In the sample one action is committed, and one event is kept that tells of the refund and of its
entry. -/
theorem sampleRequests_correspond :
    Correspond (sample .empty 0) sampleRequests ∧
      ((sample .empty 0).commits sampleRequests).length = 1 ∧
      ((sample .empty 0).serve sampleRequests).2.trail.kept =
        [.adminAction {
          workspaceId := "acme"
          walletId := "main"
          adminUserId := "root"
          adminRole := .superAdmin
          action := .adjustBalance
          amount := some 40
          currency := some "USD"
          reason := "goodwill"
          ledgerEntryId := some (Ledger.sampleId 3)
          occurredAt := .start }] := by
  have served : ∀ q ∈ sampleRequests, q.2.serves = true := by decide
  exact ⟨actions_correspond rfl served (by decide) ⟨_, _, rfl, fun _ => rfl⟩, rfl, rfl⟩

end Exchange

end CallExchange
