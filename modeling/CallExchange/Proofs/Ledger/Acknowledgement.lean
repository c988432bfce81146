import CallExchange.Proofs.Ledger.Soundness

/-!
# What callers have been told

A caller of the service sees answers and no books. The answers are enough to know the books: the
entries of a wallet are those that have been acknowledged as new, and every balance in an answer is
the sum of what is committed at that moment. The balance of a new entry is computed before the
commit, so that this needs the soundness of the books.

## Main definitions

* `Ledger.committed` — the entries of a wallet, none if there is no such wallet
* `Ledger.acknowledged` — the entries that the answers of a run call new
* `Ledger.Accords` — an answer agrees with the books

## Main results

* `adds_step`, `committed_run` — an operation commits what it acknowledges, and so does a run
* `accords_of_run` — in a run of the service, entries and answers agree
-/

namespace CallExchange.Ledger

variable {l : Ledger} {stamp : Stamp} {op : Op} {o : Outcome} {key : WalletKey} {p : Posting}

/-- The committed entries of a wallet. -/
def committed (l : Ledger) (key : WalletKey) : List Entry :=
  match l.books key with
  | some book => book.entries
  | none => []

/-- The committed actions of a wallet. -/
def committedActions (l : Ledger) (key : WalletKey) : List AdminAction :=
  match l.books key with
  | some book => book.actions
  | none => []

theorem committed_of_stored {book : Book} (stored : l.books key = some book) :
    committed l key = book.entries := by
  simp only [committed, stored]

theorem committedActions_of_stored {book : Book} (stored : l.books key = some book) :
    committedActions l key = book.actions := by
  simp only [committedActions, stored]

/-- The receipt in an answer that calls an entry new in a wallet. -/
def freshReceipt? (key : WalletKey) (op : Op) (o : Outcome) : Option Receipt :=
  match op.posting?, o.receipt with
  | some (k, _), .ok (some r) => if k = key ∧ r.replayed = false then some r else none
  | _, _ => none

/-- The receipts that the answers to a list of operations give for new entries of a wallet. -/
def freshReceipts (key : WalletKey) (script : List (Stamp × Op)) (outcomes : List Outcome) :
    List Receipt :=
  (script.zip outcomes).filterMap fun (s, o) => freshReceipt? key s.2 o

/-- The entries that the answers to a list of operations call new in a wallet. -/
def acknowledged (key : WalletKey) (script : List (Stamp × Op)) (outcomes : List Outcome) :
    List Entry :=
  (freshReceipts key script outcomes).map (·.entry)

theorem freshReceipt_of_silent (posts : op.posting? = none) : freshReceipt? key op o = none := by
  simp only [freshReceipt?, posts]

theorem freshReceipt_of_error {halt : Halt WalletError} (receipt : o.receipt = .error halt) :
    freshReceipt? key op o = none := by
  simp only [freshReceipt?, receipt]
  cases op.posting? <;> rfl

theorem freshReceipt_of_receipt {r : Receipt} {k : WalletKey} (posts : op.posting? = some (k, p))
    (receipt : o.receipt = .ok (some r)) :
    freshReceipt? key op o = if k = key ∧ r.replayed = false then some r else none := by
  simp only [freshReceipt?, posts, receipt]

theorem freshReceipt_eq_some_iff {r : Receipt} :
    freshReceipt? key op o = some r ↔
      ∃ p, op.posting? = some (key, p) ∧ o.receipt = .ok (some r) ∧ r.replayed = false := by
  constructor
  · intro found
    revert found
    fun_cases freshReceipt? key op o with
    | case1 k p r receipt posts same =>
      obtain ⟨rfl, fresh⟩ := same
      rintro ⟨⟩
      exact ⟨p, posts, receipt, fresh⟩
    | case2 | case3 => rintro ⟨⟩
  · rintro ⟨p, posts, answered, fresh⟩
    rw [freshReceipt_of_receipt posts answered, if_pos ⟨rfl, fresh⟩]

/-- The rows of a wallet after an operation are those before it and those of a receipt. -/
def Adds (key : WalletKey) (r : Option Receipt) (l next : Ledger) : Prop :=
  committed next key = committed l key ++ (r.map (·.entry)).toList ∧
    committedActions next key = committedActions l key ++ (r.bind (·.action)).toList

theorem adds_of_books {next : Ledger} (kept : next.books key = l.books key) :
    Adds key none l next := by
  simp [Adds, committed, committedActions, kept]

/-- An operation of the service commits the rows that it acknowledges, and no other. -/
theorem adds_step (l : Ledger) (stamp : Stamp) (key : WalletKey) (serves : op.serves = true) :
    Adds key (freshReceipt? key op (step stamp l op)) l (step stamp l op).ledger := by
  cases served_step l stamp serves with
  | unchanged posts _ ledger =>
    rw [freshReceipt_of_silent posts]
    exact adds_of_books (by rw [ledger])
  | armed posts _ ledger =>
    rw [freshReceipt_of_silent posts]
    exact adds_of_books (by rw [ledger, books_withPoint])
  | @created w posts _ missing ledger =>
    rw [freshReceipt_of_silent posts, ledger]
    -- a new wallet has no rows, and before there were none either
    by_cases same : key = w.key
    · subst same
      simp [Adds, committed, committedActions, missing, Book.new]
    · exact adds_of_books (books_withBook_of_ne same)
  | @posted k p posts posted =>
    cases posted with
    | failed _ answer ledger =>
      rw [freshReceipt_of_error answer]
      exact adds_of_books (by rw [ledger])
    | waited _ _ _ answer ledger =>
      rw [freshReceipt_of_error answer]
      exact adds_of_books (by rw [ledger])
    | tripped _ _ answer ledger =>
      rw [freshReceipt_of_error answer]
      exact adds_of_books (by rw [ledger, books_withPoint])
    | replayed _ _ _ _ answer ledger =>
      -- there is a receipt, but it does not call its entry new
      rw [freshReceipt_of_receipt posts answer, if_neg (by simp)]
      exact adds_of_books (by rw [ledger])
    | written writes _ _ answer ledger =>
      rw [freshReceipt_of_receipt posts answer, ledger]
      by_cases same : k = key
      · subst same
        simp [Adds, committed, committedActions, writes.stored, Book.recorded]
      · rw [if_neg fun both => same both.1]
        exact adds_of_books (books_withBook_of_ne (Ne.symm same))

/-- A run of the service commits the rows that it acknowledges, one after the other. -/
theorem committed_run {script : List (Stamp × Op)} (served : ∀ s ∈ script, s.2.serves = true) :
    committed (run l script).2 key =
        committed l key ++ (freshReceipts key script (run l script).1).map (·.entry) ∧
      committedActions (run l script).2 key =
        committedActions l key ++
          (freshReceipts key script (run l script).1).filterMap (·.action) := by
  induction script generalizing l with
  | nil => simp [run, freshReceipts]
  | cons s script ih =>
    -- the rows of the first operation, and after them those of the rest
    have later : ∀ t ∈ script, t.2.serves = true :=
      fun t mem => served t (List.mem_cons_of_mem s mem)
    have rest := ih (l := (step s.1 l s.2).ledger) later
    have first := adds_step l s.1 key (served s List.mem_cons_self)
    simp only [run]
    rw [rest.1, rest.2, first.1, first.2, List.append_assoc, List.append_assoc]
    simp only [freshReceipts, List.zip_cons_cons, List.filterMap_cons]
    cases freshReceipt? key s.2 (step s.1 l s.2) with
    | none => exact ⟨rfl, rfl⟩
    | some r => cases action : r.action <;> simp [action]

/-- An answer in a run is that of one operation, on the ledger after those before it. -/
theorem outcome_of_run {script : List (Stamp × Op)} {i : Nat}
    (operation : script[i]? = some (stamp, op))
    (outcome : (run l script).1[i]? = some o) : o = step stamp (run l (script.take i)).2 op := by
  induction script generalizing l i with
  | nil => cases operation
  | cons s script ih =>
    cases i with
    | zero =>
      cases operation
      cases outcome
      rfl
    | succ i => exact ih operation outcome

/-- A receipt for a new entry shows what its posting has written. -/
theorem posting_of_zip {script : List (Stamp × Op)} {s : Stamp × Op} {r : Receipt}
    (mem : (s, o) ∈ script.zip (run l script).1) (fresh : freshReceipt? key s.2 o = some r) :
    ∃ p, s.2.posting? = some (key, p) ∧ r.entry = p.entry s.1 key ∧
      r.action = p.action? s.1 key := by
  obtain ⟨i, place⟩ := List.mem_iff_getElem?.mp mem
  obtain ⟨operation, outcome⟩ := List.getElem?_zip_eq_some.mp place
  obtain rfl := outcome_of_run operation outcome
  obtain ⟨p, posts, answered, fresh⟩ := freshReceipt_eq_some_iff.mp fresh
  obtain ⟨book, b, -, -, rfl, -⟩ := written_of_receipt posts answered fresh
  exact ⟨p, posts, rfl, rfl⟩

/-- A receipt for a new entry is that of a posting in the run. -/
theorem posting_of_freshReceipts {script : List (Stamp × Op)} {r : Receipt}
    (fresh : r ∈ freshReceipts key script (run l script).1) :
    ∃ s ∈ script, ∃ p, s.2.posting? = some (key, p) ∧ r.entry = p.entry s.1 key ∧
      r.action = p.action? s.1 key := by
  obtain ⟨⟨s, o⟩, mem, fresh⟩ := List.mem_filterMap.mp fresh
  exact ⟨s, (List.of_mem_zip mem).1, posting_of_zip mem fresh⟩

/-! ### Reading a balance -/

theorem step_balance :
    step stamp l (.balance key) =
      match key.refusal? with
      | some cause => ⟨.error (.failed (.invalidArgument cause)), l, [], []⟩
      | none =>
        match l.books key with
        | none => ⟨.error (.failed (.notFound (.balance key.walletId))), l, [], []⟩
        | some book =>
          if l.isHeld key then ⟨.error .waiting, l, [], []⟩
          else
            match book.balance with
            | none => ⟨.error (.failed (.notFound (.balance key.walletId))), l, [], []⟩
            | some b => ⟨.ok (.balance b), l, [], []⟩ := by
  simp only [step, LedgerM.outcome, Op.action, balance, storedBalance, EStateM.run_bind, run_refuse,
    run_book?]
  cases key.refusal? with
  | some cause => rfl
  | none =>
    simp only [Desk.of]
    cases l.books key with
    | none => rfl
    | some book =>
      by_cases held : l.isHeld key
      · simp [held]
      · cases projected : book.balance <;> simp [held, projected]

/-- A wallet that is not held has a balance as soon as it has an entry. -/
theorem answer_balance (stamp : Stamp) (sound : Sound l) (free : l.isHeld key = false)
    (named : key.refusal? = none) :
    (committed l key = [] ∧ (step stamp l (.balance key)).answer =
        .error (.failed (.notFound (.balance key.walletId)))) ∨
      ∃ b, committed l key ≠ [] ∧ b.amount.toInt = Entry.total (committed l key) ∧
        (step stamp l (.balance key)).answer = .ok (.balance b) := by
  rw [step_balance]
  cases stored : l.books key with
  | none => exact .inl ⟨by simp [committed, stored], by simp [named]⟩
  | some book =>
    have book_sound := sound key book stored
    rw [committed_of_stored stored]
    cases projected : book.balance with
    | none => exact .inl ⟨book_sound.projected.mp projected, by simp [named, free, projected]⟩
    | some b =>
      have some_entry : book.entries ≠ [] := fun empty => by
        cases projected.symm.trans (book_sound.projected.mpr empty)
      exact .inr ⟨b, some_entry, book_sound.exact b projected, by simp [named, free, projected]⟩

/-! ### Answers and books -/

/-- The answer to an operation agrees with the entries before and after it. -/
structure Accords (l : Ledger) (op : Op) (o : Outcome) : Prop where
  /-- What is acknowledged is committed, and the balance is that after it. -/
  fresh : ∀ {key p r}, op.posting? = some (key, p) → o.receipt = .ok (some r) →
    r.replayed = false → committed o.ledger key = committed l key ++ [r.entry] ∧
      r.balance.amount.toInt = Entry.total (committed l key ++ [r.entry])
  /-- What is replayed has been committed before, and the balance is the present one. -/
  replayed : ∀ {key p r}, op.posting? = some (key, p) → o.receipt = .ok (some r) →
    r.replayed = true → r.entry ∈ committed l key ∧ committed o.ledger key = committed l key ∧
      r.balance.amount.toInt = Entry.total (committed l key)
  failed : ∀ {halt}, o.answer = .error halt → ∀ key, committed o.ledger key = committed l key
  balance : ∀ {key b}, op = .balance key → o.answer = .ok (.balance b) →
    b.amount.toInt = Entry.total (committed l key)
  missing : ∀ {key}, op = .balance key → key.refusal? = none →
    ((∃ what, o.answer = .error (.failed (.notFound what))) ↔ committed l key = [])
  known : ∀ {key}, op = .balance key → key.refusal? = none → committed l key ≠ [] →
    ∃ b, o.answer = .ok (.balance b)
  /-- A key with a blank part is refused, whether there is such a wallet or not. -/
  unnamed : ∀ {key cause}, op = .balance key → key.refusal? = some cause →
    o.answer = .error (.failed (.invalidArgument cause))

theorem fresh_step {r : Receipt} (sound : Sound l) (serves : op.serves = true)
    (posts : op.posting? = some (key, p)) (answered : (step stamp l op).receipt = .ok (some r))
    (fresh : r.replayed = false) :
    committed (step stamp l op).ledger key = committed l key ++ [r.entry] ∧
      r.balance.amount.toInt = Entry.total (committed l key ++ [r.entry]) := by
  have added := (adds_step l stamp key serves).1
  rw [freshReceipt_of_receipt posts answered, if_pos ⟨rfl, fresh⟩] at added
  obtain ⟨book, b, writes, moved, rfl, -⟩ := written_of_receipt posts answered fresh
  refine ⟨added, ?_⟩
  rw [committed_of_stored writes.stored, ((sound _ _ writes.stored).moved writes moved).1]
  simp [Posting.toInt_signed writes.checked]

theorem replayed_step {r : Receipt} (sound : Sound l)
    (posts : op.posting? = some (key, p)) (answered : (step stamp l op).receipt = .ok (some r))
    (replayed : r.replayed = true) :
    r.entry ∈ committed l key ∧ committed (step stamp l op).ledger key = committed l key ∧
      r.balance.amount.toInt = Entry.total (committed l key) := by
  obtain ⟨book, stored, used, balance, ledger⟩ := stored_of_receipt posts answered replayed
  rw [ledger, committed_of_stored stored]
  exact ⟨List.mem_of_find?_eq_some used, rfl, (sound _ _ stored).exact _ balance⟩

theorem accords_step (sound : Sound l) (closed : l.held = []) (serves : op.serves = true) :
    Accords l op (step stamp l op) where
  fresh posts answered fresh := fresh_step sound serves posts answered fresh
  replayed posts answered replayed := replayed_step sound posts answered replayed
  failed {halt} failed key := by
    have added := (adds_step l stamp key serves).1
    rwa [freshReceipt_of_error (Outcome.receipt_of_error failed), Option.map_none,
      Option.toList_none, List.append_nil] at added
  balance {key b} reads answered := by
    subst reads
    cases named : key.refusal? with
    | some cause => simp [step_balance, named] at answered
    | none =>
      rcases answer_balance stamp sound (free_of_closed closed) named with
        ⟨-, answer⟩ | ⟨b, -, sum, answer⟩
      · cases answer.symm.trans answered
      · cases answer.symm.trans answered
        exact sum
  missing {key} reads named := by
    subst reads
    rcases answer_balance stamp sound (free_of_closed closed) named with
      ⟨empty, answer⟩ | ⟨b, some, -, answer⟩
    · simp [empty, answer]
    · simp [some, answer]
  known {key} reads named some := by
    subst reads
    rcases answer_balance stamp sound (free_of_closed closed) named with
      ⟨empty, -⟩ | ⟨b, -, -, answer⟩
    · exact absurd empty some
    · exact ⟨b, answer⟩
  unnamed {key cause} reads refused := by
    subst reads
    rw [step_balance, refused]

/-- In a run of the service the entries of a wallet are exactly those that the answers call new, and
each answer agrees with the books at its moment. -/
theorem accords_of_run {script : List (Stamp × Op)} (served : ∀ s ∈ script, s.2.serves = true) :
    (∀ key, committed (run .empty script).2 key =
        acknowledged key script (run .empty script).1) ∧
      ∀ {i stamp op o}, script[i]? = some (stamp, op) → (run .empty script).1[i]? = some o →
        o.ledger = (run .empty (script.take (i + 1))).2 ∧
          Accords (run .empty (script.take i)).2 op o := by
  refine ⟨fun key => (committed_run served).1, ?_⟩
  intro i stamp op o operation outcome
  -- the operations before an answer are a run of the service, too
  have before : ∀ s ∈ script.take i, s.2.serves = true :=
    fun s mem => served s (List.mem_of_mem_take mem)
  obtain rfl := outcome_of_run operation outcome
  refine ⟨?_, accords_step (sound_after before) (held_after before)
    (served _ (List.mem_of_getElem? operation))⟩
  rw [List.take_add_one, operation]
  exact (after_append .empty (script.take i) [(stamp, op)]).symm

/-- In the sample two entries are committed, and the last operation replays the first of them. -/
theorem accords_of_sampleRun :
    (∀ s ∈ sampleRun, s.2.serves = true) ∧
      committed (run .empty sampleRun).2 sampleKey =
        acknowledged sampleKey sampleRun (run .empty sampleRun).1 ∧
      (acknowledged sampleKey sampleRun (run .empty sampleRun).1).length = 2 ∧
      ∃ r, (step (sampleStamp 7) (run .empty (sampleRun.take 7)).2
          (.debit sampleKey (samplePosting 7 "invoice"))).receipt = .ok (some r) ∧
        r.replayed = true ∧ r.entry ∈ committed (run .empty (sampleRun.take 7)).2 sampleKey ∧
        r.balance.amount.toInt =
          Entry.total (committed (run .empty (sampleRun.take 7)).2 sampleKey) := by
  have served : ∀ s ∈ sampleRun, s.2.serves = true := by decide
  obtain ⟨entries, answers⟩ := accords_of_run served
  have last : sampleRun[7]? =
      some (sampleStamp 7, .debit sampleKey (samplePosting 7 "invoice")) := rfl
  obtain ⟨-, accords⟩ := answers last rfl
  obtain ⟨stored, -, sum⟩ := accords.replayed rfl rfl rfl
  exact ⟨served, entries sampleKey, rfl, _, rfl, rfl, stored, sum⟩

/-- A wallet with a blank workspace can be registered. It has no entries, but to ask for its balance
is refused, so that its balance is not reported as missing. -/
theorem balance_of_blank_workspace :
    ¬ ∀ (script : List (Stamp × Op)) (stamp : Stamp) (key : WalletKey),
      (∀ s ∈ script, s.2.serves = true) →
        ((∃ what, (step stamp (run .empty script).2 (.balance key)).answer =
            .error (.failed (.notFound what))) ↔
          committed (run .empty script).2 key = []) := by
  intro claim
  let key : WalletKey := ⟨"", "main"⟩
  obtain ⟨what, missing⟩ := (claim [(sampleStamp 0, .createWallet (sampleWallet key))]
    (sampleStamp 1) key (by decide)).mpr rfl
  cases missing

end CallExchange.Ledger
