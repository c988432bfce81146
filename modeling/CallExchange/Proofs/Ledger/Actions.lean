import CallExchange.Proofs.Ledger.Acknowledgement
import Mathlib.Data.List.Nodup

/-!
# Administrative actions

A credit by an administrator writes an entry and an action that names the entry. They are committed
together, and the answer to the request shows both. Nothing else of the service writes actions. As
long as identifiers do not repeat, each action has therefore an entry of its own, and an entry that
an ordinary posting has written has no action.

## Main definitions

* `AdminAction.Documents` — the action is the record of the entry
* `Ledger.Paired` — each action of a wallet is the record of an entry of its own
* `Op.granted?` — the action in an answer that acknowledges a new credit by an administrator
* `Ledger.Reported` — an operation reports the actions that it commits

## Main results

* `paired_after` — in a run of the service actions and entries are paired
* `undocumented_of_run` — no action names the entry of an ordinary posting
* `reported_step` — what an operation commits, what it answers and what it reports is the same
-/

namespace CallExchange

/-- The place of the wallet that an action is about. -/
def AdminAction.key (a : AdminAction) : WalletKey := ⟨a.workspaceId, a.walletId⟩

/-- The action is the record of the entry: an administrator has added that amount. -/
structure AdminAction.Documents (a : AdminAction) (e : Entry) : Prop where
  related : a.relatedLedgerId = some e.id
  credit : e.entryType = .credit
  reference : e.externalRef = some adminCreditRef
  amount : a.amount = some e.amount
  currency : a.currency = some e.currency
  metadata : a.metadata = e.metadata
  workspaceId : a.workspaceId = e.workspaceId
  walletId : a.walletId = e.walletId
  createdAt : a.createdAt = e.createdAt

/-- Among entries with different identifiers one is found by its identifier. -/
theorem Entry.filter_id_eq {es : List Entry} {e : Entry} (distinct : (es.map (·.id)).Nodup)
    (mem : e ∈ es) : es.filter (fun other => e.id = other.id) = [e] := by
  obtain ⟨before, after, rfl⟩ := List.append_of_mem mem
  rw [List.map_append, List.map_cons, List.nodup_append, List.nodup_cons] at distinct
  obtain ⟨-, ⟨later, -⟩, apart⟩ := distinct
  have none_before : before.filter (fun other => e.id = other.id) = [] := by
    refine List.filter_eq_nil_iff.mpr fun other here => ?_
    have differs := apart other.id (List.mem_map_of_mem here) e.id List.mem_cons_self
    simpa using differs.symm
  have none_after : after.filter (fun other => e.id = other.id) = [] := by
    refine List.filter_eq_nil_iff.mpr fun other there same => later ?_
    exact List.mem_map.mpr ⟨other, there, by simpa using Eq.symm (of_decide_eq_true same)⟩
  rw [List.filter_append, none_before, List.filter_cons_of_pos (by simp), none_after]
  rfl

namespace Ledger

variable {l : Ledger} {stamp : Stamp} {op : Op} {o : Outcome} {key : WalletKey} {p : Posting}
  {script : List (Stamp × Op)} {a : AdminAction}

/-! ### Entries and their actions -/

/-- The action of a posting names its entry. -/
theorem relatedLedgerId_of_action {a : AdminAction} (action : p.action? stamp key = some a) :
    a.relatedLedgerId = some stamp.entryId := by
  revert action
  fun_cases Posting.action? p stamp key <;> rintro ⟨⟩
  rfl

/-- The action of a posting is the record of its entry. -/
theorem documents_of_action (request : op.posting? = some (key, p))
    (action : p.action? stamp key = some a) : a.Documents (p.entry stamp key) := by
  cases op with
  | credit | debit =>
    cases request
    cases action
  | adminCredit =>
    -- the entry of an administrator's credit carries the fixed reference
    cases request
    cases action
    exact ⟨rfl, rfl, rfl, rfl, rfl, rfl, rfl, rfl, rfl⟩
  | _ => cases request

theorem length_run : (run l script).1.length = script.length := by
  induction script generalizing l with
  | nil => rfl
  | cons s script ih => simp only [run, List.length_cons, ih]

/-- New entries carry the identifiers of their operations, so that they differ if those do. -/
theorem pairwise_freshReceipts (distinct : (script.map (·.1.entryId)).Nodup) :
    (freshReceipts key script (run l script).1).Pairwise fun r r' => r.entry.id ≠ r'.entry.id := by
  have operations : (script.zip (run l script).1).Pairwise
      fun t t' => t.1.1.entryId ≠ t'.1.1.entryId := by
    have ids : (script.zip (run l script).1).map (·.1.1.entryId) = script.map (·.1.entryId) := by
      have firsts : (script.zip (run l script).1).map Prod.fst = script :=
        List.map_fst_zip (Nat.le_of_eq length_run.symm)
      conv_rhs => rw [← firsts, List.map_map]
      rfl
    rwa [← ids, List.Nodup, List.pairwise_map] at distinct
  refine List.pairwise_filterMap.mpr (operations.imp_of_mem ?_)
  intro t t' mem mem' apart r fresh r' fresh' same
  obtain ⟨p, -, entry, -⟩ := posting_of_zip mem fresh
  obtain ⟨p', -, entry', -⟩ := posting_of_zip mem' fresh'
  rw [entry, entry'] at same
  exact apart same

/-- Each action of a wallet is the record of exactly one entry, and each of another one. -/
structure Paired (entries : List Entry) (actions : List AdminAction) : Prop where
  documented : ∀ a ∈ actions, ∃ e,
    entries.filter (fun e => a.relatedLedgerId = some e.id) = [e] ∧ a.Documents e
  apart : (actions.map (·.relatedLedgerId)).Nodup

/-- An action in a book is that of an administrator's credit in the run. -/
theorem author_of_action (served : ∀ s ∈ script, s.2.serves = true)
    (recorded : a ∈ committedActions (after .empty script) key) :
    ∃ r ∈ freshReceipts key script (run .empty script).1, r.action = some a ∧ ∃ s ∈ script, ∃ p,
      s.2.posting? = some (key, p) ∧ r.entry = p.entry s.1 key ∧ p.action? s.1 key = some a := by
  have actions : committedActions (after .empty script) key =
      (freshReceipts key script (run .empty script).1).filterMap (·.action) :=
    (committed_run served).2
  rw [actions] at recorded
  obtain ⟨r, fresh, action⟩ := List.mem_filterMap.mp recorded
  obtain ⟨s, mem, p, posts, entry, own⟩ := posting_of_freshReceipts fresh
  exact ⟨r, fresh, action, s, mem, p, posts, entry, own.symm.trans action⟩

/-- In a run of the service each action of a wallet has an entry of its own. -/
theorem paired_after (served : ∀ s ∈ script, s.2.serves = true)
    (distinct : (script.map (·.1.entryId)).Nodup) :
    Paired (committed (after .empty script) key) (committedActions (after .empty script) key) := by
  have rows : committed (after .empty script) key =
        (freshReceipts key script (run .empty script).1).map (·.entry) ∧
      committedActions (after .empty script) key =
        (freshReceipts key script (run .empty script).1).filterMap (·.action) :=
    committed_run served
  have apart : (freshReceipts key script (run .empty script).1).Pairwise
      fun r r' => r.entry.id ≠ r'.entry.id := pairwise_freshReceipts distinct
  constructor
  · intro a recorded
    obtain ⟨r, fresh, -, s, -, p, posts, entry, own⟩ := author_of_action served recorded
    have documents : a.Documents r.entry := entry ▸ documents_of_action posts own
    have ids : ((committed (after .empty script) key).map (·.id)).Nodup := by
      rw [rows.1, List.map_map]
      exact List.pairwise_map.mpr apart
    refine ⟨r.entry, ?_, documents⟩
    simpa only [documents.related, Option.some.injEq] using
      Entry.filter_id_eq ids (rows.1 ▸ List.mem_map_of_mem fresh)
  · -- two actions name the entries of two receipts
    rw [rows.2, List.Nodup, List.pairwise_map, List.pairwise_filterMap]
    refine apart.imp_of_mem fun {r r'} mem mem' differs a action a' action' same => differs ?_
    obtain ⟨s, -, p, -, entry, own⟩ := posting_of_freshReceipts mem
    obtain ⟨s', -, p', -, entry', own'⟩ := posting_of_freshReceipts mem'
    have related := relatedLedgerId_of_action (own.symm.trans action)
    have related' := relatedLedgerId_of_action (own'.symm.trans action')
    rw [entry, entry']
    exact Option.some.inj (related.symm.trans (same.trans related'))

/-- In a run of the service no action of any wallet names the entry of an ordinary posting. -/
theorem undocumented_of_run (served : ∀ s ∈ script, s.2.serves = true)
    (distinct : (script.map (·.1.entryId)).Nodup) (mem : (stamp, op) ∈ script)
    (posts : op.posting? = some (key, p)) (ordinary : p.kind = .credit ∨ p.kind = .debit)
    {wallet : WalletKey} (recorded : a ∈ committedActions (after .empty script) wallet) :
    a.relatedLedgerId ≠ some (p.entry stamp key).id := by
  intro related
  obtain ⟨-, -, -, s, run, q, posting, -, own⟩ := author_of_action served recorded
  have same : s.1.entryId = stamp.entryId :=
    Option.some.inj ((relatedLedgerId_of_action own).symm.trans related)
  -- the two operations have one identifier, so that they are the same
  cases List.inj_on_of_nodup_map distinct run mem same
  cases posting.symm.trans posts
  rcases ordinary with kind | kind <;> simp [Posting.action?, kind] at own

/-! ### What is committed, answered and reported -/

/-- The actions that an operation has added to the book of the wallet that it names. -/
def newActions (l next : Ledger) (op : Op) : List AdminAction :=
  match op.named? with
  | some key => (committedActions next key).drop (committedActions l key).length
  | none => []

/-- The wallet and the action in an answer that acknowledges a new credit by an administrator. -/
def Op.granted? (op : Op) (answer : Except (Halt WalletError) Answer) :
    Option (WalletKey × Option AdminAction) :=
  match op, answer.map Answer.receipt? with
  | .adminCredit key .., .ok (some r) => if r.replayed then none else some (key, r.action)
  | _, _ => none

/-- The actions that an operation reports are those that it has committed, and those that its answer
shows as new. -/
structure Reported (l : Ledger) (op : Op) (o : Outcome) : Prop where
  gained : newActions l o.ledger op = o.reports
  filed : ∀ key, committedActions o.ledger key =
    committedActions l key ++ o.reports.filter fun a => a.key = key
  granted : (op.granted? o.answer).toList = o.reports.map fun a => (a.key, some a)

theorem granted_of_error {halt : Halt WalletError} (answer : o.receipt = .error halt) :
    op.granted? o.answer = none := by
  rw [Outcome.receipt] at answer
  cases op <;> simp only [Op.granted?, answer]

theorem granted_of_silent {answer : Except (Halt WalletError) Answer}
    (posts : op.posting? = none) : op.granted? answer = none := by
  cases op <;> first | rfl | cases posts

/-- An operation that adds no action anywhere reports none. -/
theorem reported_of_kept (kept : ∀ key, committedActions o.ledger key = committedActions l key)
    (granted : op.granted? o.answer = none) (reports : o.reports = []) : Reported l op o where
  gained := by
    cases named : op.named? <;> simp [newActions, named, kept, reports]
  filed key := by simp [kept, reports]
  granted := by simp [granted, reports]

theorem reported_of_written {book : Book} {b : Balance} (posts : op.posting? = some (key, p))
    (stored : l.books key = some book)
    (answer : o.receipt = .ok (some ⟨p.entry stamp key, b, p.action? stamp key, false⟩))
    (ledger : o.ledger =
      l.withBook key (book.recorded (p.entry stamp key) b (p.action? stamp key)))
    (reports : o.reports = (p.action? stamp key).toList) : Reported l op o := by
  have own : committedActions o.ledger key = committedActions l key ++ o.reports := by
    rw [ledger, reports, committedActions_of_stored books_withBook_self,
      committedActions_of_stored stored]
    rfl
  have others {k : WalletKey} (other : k ≠ key) :
      committedActions o.ledger k = committedActions l k := by
    simp only [ledger, committedActions, books_withBook_of_ne other]
  have placed : ∀ a ∈ o.reports, a.key = key := by
    rw [reports]
    intro a new
    have documents := documents_of_action posts (Option.mem_toList.mp new)
    rw [AdminAction.key, documents.workspaceId, documents.walletId]
    rfl
  refine ⟨?_, fun k => ?_, ?_⟩
  · rw [newActions, named_of_posting posts]
    simp [own]
  · by_cases same : k = key
    · subst same
      rw [own, List.filter_eq_self.mpr fun a new => by simpa using placed a new]
    · have none_here : o.reports.filter (fun a => a.key = k) = [] := by
        refine List.filter_eq_nil_iff.mpr fun a new => ?_
        simpa [placed a new] using Ne.symm same
      rw [others same, none_here, List.append_nil]
  · rw [Outcome.receipt] at answer
    rw [reports]
    cases op with
    | credit | debit =>
      cases posts
      rfl
    | adminCredit =>
      cases posts
      simp only [Op.granted?, answer]
      rfl
    | _ => cases posts

/-- An operation of the service reports what it commits and what it grants. -/
theorem reported_step (l : Ledger) (stamp : Stamp) (serves : op.serves = true) :
    Reported l op (step stamp l op) := by
  cases served_step l stamp serves with
  | unchanged posts _ ledger reports =>
    exact reported_of_kept (fun _ => by rw [ledger]) (granted_of_silent posts) reports
  | armed posts _ ledger reports =>
    exact reported_of_kept (fun _ => by rw [ledger]; rfl) (granted_of_silent posts) reports
  | @created w posts _ missing ledger reports =>
    refine reported_of_kept (fun key => ?_) (granted_of_silent posts) reports
    rw [ledger]
    by_cases same : key = w.key
    · subst same
      simp [committedActions, missing, Book.new]
    · simp only [committedActions, books_withBook_of_ne same]
  | posted posts posted =>
    cases posted with
    | failed _ answer ledger reports =>
      exact reported_of_kept (fun _ => by rw [ledger]) (granted_of_error answer) reports
    | waited _ _ _ answer ledger reports =>
      exact reported_of_kept (fun _ => by rw [ledger]) (granted_of_error answer) reports
    | tripped _ _ answer ledger reports =>
      exact reported_of_kept (fun _ => by rw [ledger]; rfl) (granted_of_error answer) reports
    | replayed _ _ _ _ answer ledger reports =>
      -- the answer shows an action perhaps, but not as a new one
      rw [Outcome.receipt] at answer
      refine reported_of_kept (fun _ => by rw [ledger]) ?_ reports
      cases op <;> simp [Op.granted?, answer]
    | written writes _ _ answer ledger reports =>
      exact reported_of_written posts writes.stored answer ledger reports

end Ledger

end CallExchange
