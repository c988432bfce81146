import CallExchange.Proofs.Ledger.Locks
import Mathlib.Data.List.Induction

/-!
# Reconciliation

A reconciliation adds up the entries of a wallet from the first on, with a sum that may leave 64 bits
on the way, and sets the result beside the projection. It can find the books at fault, and so can a
posting: an entry may lack its projection, the projection may be in another currency, or the store
may know a key that the lookup has not found. As long as only the service posts, none of that
happens.

## Main definitions

* `Minor.Fits`, `Entry.Summable` — what an amount can be, and entries that can be added up
* `Book.drift` — by how much the projection of a book exceeds the sum of its entries
* `Book.Reconciles` — a reconciliation shows what is in a book
* `WalletError.BlamesBooks` — the errors that find the books at fault

## Main results

* `Entry.sum?_eq_some_iff` — the sum of entries is exact, and there is one when they can be added up
* `Book.Reconciles.isConsistent_iff` — a reconciliation is consistent when nothing has drifted
* `answer_reconcile_of_summable` — what a reconciliation answers
* `consistent_of_run` — in a run of the service the books are never at fault
-/

namespace CallExchange

/-! ### Sums that fit -/

namespace Minor

/-- An amount can be this much. -/
def Fits (n : Int) : Prop := Int64.minValue.toInt ≤ n ∧ n ≤ Int64.maxValue.toInt

theorem fits_toInt (a : Minor) : Fits a.toInt := ⟨a.minValue_le_toInt, a.toInt_le⟩

theorem add?_eq_some_iff {a b c : Minor} : add? a b = some c ↔ c.toInt = a.toInt + b.toInt := by
  constructor
  · exact toInt_of_add?
  · intro sum
    have fits : Fits c.toInt := fits_toInt c
    unfold Fits at fits
    simp only [add?, ← sum, if_pos fits, Int64.ofInt_toInt]

/-- What an amount can be, some amount is. -/
theorem exists_toInt_eq {n : Int} (fits : Fits n) : ∃ a : Minor, a.toInt = n := by
  obtain ⟨low, high⟩ := fits
  rw [Int64.toInt_minValue] at low
  rw [Int64.toInt_maxValue] at high
  exact ⟨.ofInt n, Int64.toInt_ofInt_of_le low (by omega)⟩

theorem sum?_concat (amounts : List Minor) (a : Minor) :
    sum? (amounts ++ [a]) = (sum? amounts).bind fun sum => add? sum a := by
  simp [sum?, List.foldlM_append]

end Minor

namespace Entry

/-- No beginning of the entries adds up to more or less than an amount can be. -/
def Summable (es : List Entry) : Prop := ∀ start, start <+: es → Minor.Fits (total start)

theorem summable_nil : Summable [] := by
  intro start initial
  rw [List.prefix_nil.mp initial]
  exact Minor.fits_toInt 0

theorem summable_concat {es : List Entry} {e : Entry} :
    Summable (es ++ [e]) ↔ Summable es ∧ Minor.Fits (total (es ++ [e])) := by
  constructor
  · intro summable
    exact ⟨fun start initial => summable start (initial.trans (List.prefix_append _ _)),
      summable _ List.prefix_rfl⟩
  · rintro ⟨summable, fits⟩ start initial
    -- only the full list is a new beginning
    rcases List.prefix_concat_iff.mp initial with rfl | earlier
    · exact fits
    · exact summable start earlier

/-- Entries have a sum when they can be added up, and then it is exact. -/
theorem sum?_eq_some_iff {es : List Entry} {sum : Minor} :
    Minor.sum? (es.map (·.amount)) = some sum ↔ Summable es ∧ sum.toInt = total es := by
  -- the sum runs from the first entry on, so that the last one is added to that of the others
  induction es using List.reverseRecOn generalizing sum with
  | nil =>
    have zero : Minor.sum? [] = some sum ↔ sum.toInt = 0 := by
      rw [← Int64.toInt_zero, Int64.toInt_inj, eq_comm]
      exact Option.some_inj
    exact zero.trans (iff_and_self.mpr fun _ => summable_nil)
  | append_singleton es e ih =>
    rw [List.map_append, List.map_singleton, Minor.sum?_concat, Option.bind_eq_some_iff,
      summable_concat]
    constructor
    · rintro ⟨before, added, last⟩
      obtain ⟨summable, sum_before⟩ := ih.mp added
      have exact : sum.toInt = total (es ++ [e]) := by
        rw [Minor.add?_eq_some_iff.mp last, sum_before]
        simp
      exact ⟨⟨summable, exact ▸ Minor.fits_toInt sum⟩, exact⟩
    · rintro ⟨⟨summable, -⟩, exact⟩
      obtain ⟨before, sum_before⟩ := Minor.exists_toInt_eq (summable es List.prefix_rfl)
      refine ⟨before, ih.mpr ⟨summable, sum_before⟩, Minor.add?_eq_some_iff.mpr ?_⟩
      rw [exact, sum_before]
      simp

end Entry

/-! ### Reconciliations of a book -/

namespace Book

variable {book : Book} {key : WalletKey} {r : Reconciliation}

/-- By how much the projection of a book exceeds the sum of its entries. -/
def drift (book : Book) : Int := book.projected - Entry.total book.entries

/-- A reconciliation shows what is in a book. -/
structure Reconciles (book : Book) (r : Reconciliation) : Prop where
  sum : r.ledgerSum.toInt = Entry.total book.entries
  projected : r.projected = book.balance.map (·.amount)
  count : r.entryCount = book.entries.length

/-- A reconciliation is consistent when the projection is there and shows the sum, or there is
nothing to project. -/
theorem Reconciles.isConsistent_iff (reconciles : book.Reconciles r) :
    r.isConsistent = true ↔ book.drift = 0 ∧ (book.balance.isSome ∨ book.entries = []) := by
  obtain ⟨sum, shown, count⟩ := reconciles
  simp only [Reconciliation.isConsistent, shown, drift, Book.projected]
  cases book.balance with
  | none =>
    -- without entries the sum is zero, too
    simp only [Option.map_none, decide_eq_true_eq, count, List.length_eq_zero_iff]
    constructor
    · intro empty
      simp [empty]
    · rintro ⟨-, absent | empty⟩
      · cases absent
      · exact empty
  | some b =>
    simp only [Option.map_some, decide_eq_true_eq, Option.isSome_some, true_or, and_true,
      Option.elim_some, ← sum, Int.sub_eq_zero, Int64.toInt_inj]

theorem Sound.summable (sound : book.Sound key) : Entry.Summable book.entries := by
  intro start initial
  obtain ⟨low, high⟩ := sound.bounded start initial
  refine ⟨?_, high⟩
  rw [Int64.toInt_minValue]
  omega

theorem Sound.isSome_or_empty (sound : book.Sound key) :
    book.balance.isSome ∨ book.entries = [] := by
  cases projected : book.balance with
  | none => exact .inr (sound.projected.mp projected)
  | some b => exact .inl rfl

/-- The projection of a sound book has not drifted. -/
theorem Sound.drift_eq_zero (sound : book.Sound key) : book.drift = 0 :=
  Int.sub_eq_zero.mpr sound.elim_balance

end Book

/-! ### Answers -/

/-- The errors that find the books at fault, and not the request. -/
inductive WalletError.BlamesBooks : WalletError → Prop
  | currency {given balance : String} :
      BlamesBooks (.invalidArgument (.balanceCurrency given balance))
  | duplicate {idempotencyKey : String} : BlamesBooks (.persistence (.duplicateKey idempotencyKey))
  | unbalanced {walletId : String} : BlamesBooks (.notFound (.balance walletId))
  | overflow : BlamesBooks (.persistence .sumOverflow)

namespace Ledger

variable {l : Ledger} {stamp : Stamp} {op : Op} {key : WalletKey} {p : Posting} {book : Book}
  {e : WalletError} {script : List (Stamp × Op)}

/-- A reconciliation of a wallet that nobody holds. -/
theorem answer_reconcile (stamp : Stamp) (named : key.refusal? = none)
    (stored : l.books key = some book) (free : l.isHeld key = false) :
    (step stamp l (.reconcile key)).answer =
      match Minor.sum? (book.entries.map (·.amount)) with
      | none => .error (.failed (.persistence .sumOverflow))
      | some sum =>
        .ok (.reconciliation ⟨sum, book.balance.map (·.amount), book.entries.length⟩) := by
  have committed : (Transaction.opened key book).entries = book.entries := by
    simp [Transaction.opened, Transaction.entries]
  have projected : (Transaction.opened key book).balance = book.balance := by
    simp [Transaction.opened, Transaction.balance]
  simp only [step, LedgerM.outcome, Op.action, reconcile, EStateM.run_bind, run_refuse, named,
    run_begin, Desk.of, stored, free, Bool.false_eq_true, if_false, committed, projected]
  cases Minor.sum? (book.entries.map (·.amount)) with
  | none => rfl
  | some sum =>
    simp only [EStateM.run_bind, run_noteIf, committed, projected]
    rfl

theorem answer_reconcile_of_refusal {cause : Refusal} (stamp : Stamp)
    (refused : key.refusal? = some cause) :
    (step stamp l (.reconcile key)).answer = .error (.failed (.invalidArgument cause)) := by
  have found : (Op.reconcile key).objection? = some cause := refused
  rw [step_of_objection rfl found]

theorem answer_reconcile_of_summable (stamp : Stamp) (named : key.refusal? = none)
    (stored : l.books key = some book) (free : l.isHeld key = false)
    (summable : Entry.Summable book.entries) :
    ∃ r, (step stamp l (.reconcile key)).answer = .ok (.reconciliation r) ∧ book.Reconciles r := by
  obtain ⟨sum, exact⟩ := Minor.exists_toInt_eq (summable book.entries List.prefix_rfl)
  refine ⟨⟨sum, book.balance.map (·.amount), book.entries.length⟩, ?_, exact, rfl, rfl⟩
  rw [answer_reconcile stamp named stored free, Entry.sum?_eq_some_iff.mpr ⟨summable, exact⟩]

/-! ### Books without fault -/

/-- No check of the arguments looks at a projection. -/
theorem objection_ne_balanceCurrency {given balance : String} :
    p.objection? key ≠ some (.balanceCurrency given balance) := by
  intro found
  simp only [Posting.objection?, Option.or_eq_some_iff] at found
  rcases found with kind | ⟨-, place | ⟨-, rest⟩⟩
  · cases shape : p.kind with
    | credit | debit => simp [shape, PostingKind.refusal?] at kind
    | adminCredit actor reason =>
      simp only [shape, PostingKind.refusal?] at kind
      split_ifs at kind <;> cases kind
  · simp only [WalletKey.refusal?] at place
    split_ifs at place <;> cases place
  · simp only [Posting.refusal?] at rest
    split_ifs at rest <;> cases rest

/-- Against a projection in the currency of the posting nothing stands but a lack of funds. -/
theorem insufficient_of_shortfall {current : Option Balance}
    (currency : ∀ b, current = some b → b.currency = p.currency)
    (lacks : shortfall? p current = some e) :
    ∃ available, e = .insufficientFunds available p.amount := by
  revert lacks
  fun_cases shortfall? p current <;> grind

/-- A posting to sound books fails for reasons of its own. -/
theorem Fails.blameless {now : Instant} (sound : Sound l) (why : Fails l now key p e) :
    ¬ e.BlamesBooks := by
  intro blames
  cases why with
  | objection found =>
    cases blames
    exact objection_ne_balanceCurrency found
  | unknown => cases blames
  | foreign => cases blames
  | unbalanced opens _ used missing =>
    -- where an entry has been found there is a projection
    rw [(sound key _ opens.stored).projected.mp missing] at used
    cases used
  | @short book _ opens currency _ lacks =>
    -- the projection is in the currency of the wallet, and so is the posting
    have same : ∀ b, book.balance = some b → b.currency = p.currency := fun b projected =>
      ((sound key _ opens.stored).balance b projected).currency.trans currency
    obtain ⟨available, rfl⟩ := insufficient_of_shortfall same lacks
    cases blames
  | overflow => cases blames

theorem blameless_of_posting (sound : Sound l) (posts : op.posting? = some (key, p))
    (failed : (step stamp l op).answer = .error (.failed e)) : ¬ e.BlamesBooks := by
  have receipt := Outcome.receipt_of_error failed
  cases posted_step l stamp posts with
  | failed why answer =>
    cases answer.symm.trans receipt
    exact why.blameless sound
  | tripped _ _ answer =>
    cases answer.symm.trans receipt
    rintro ⟨⟩
  | waited _ _ _ answer => cases answer.symm.trans receipt
  | replayed _ _ _ _ answer => cases answer.symm.trans receipt
  | written _ _ _ answer => cases answer.symm.trans receipt

/-- What a reconciliation and a question for the balance answer about a wallet to which only the
service has posted. -/
structure Agrees (l : Ledger) (stamp : Stamp) (key : WalletKey) : Prop where
  /-- A key with a blank part is refused, whether there is a wallet under it or not. -/
  unnamed : ∀ {cause}, key.refusal? = some cause →
    (step stamp l (.reconcile key)).answer = .error (.failed (.invalidArgument cause))
  consistent : ∀ {book}, l.books key = some book → key.refusal? = none → ∃ r,
    (step stamp l (.reconcile key)).answer = .ok (.reconciliation r) ∧ r.isConsistent = true ∧
      r.ledgerSum.toInt = Entry.total book.entries ∧ r.entryCount = book.entries.length ∧
      (book.entries = [] ∧ r.ledgerSum = 0 ∧ r.projected = none ∧
          (step stamp l (.balance key)).answer =
            .error (.failed (.notFound (.balance key.walletId))) ∨
        ∃ b, book.entries ≠ [] ∧ (step stamp l (.balance key)).answer = .ok (.balance b) ∧
          r.ledgerSum = b.amount ∧ r.projected = some b.amount)

theorem agrees_of_sound (stamp : Stamp) (sound : Sound l) (free : l.isHeld key = false) :
    Agrees l stamp key where
  unnamed refused := answer_reconcile_of_refusal stamp refused
  consistent {book} stored named := by
    have book_sound := sound key book stored
    obtain ⟨r, answer, reconciles⟩ :=
      answer_reconcile_of_summable stamp named stored free book_sound.summable
    have consistent : r.isConsistent = true :=
      reconciles.isConsistent_iff.mpr ⟨book_sound.drift_eq_zero, book_sound.isSome_or_empty⟩
    refine ⟨r, answer, consistent, reconciles.sum, reconciles.count, ?_⟩
    -- the question for the balance reads the projection that the reconciliation shows
    rw [step_balance, named, reconciles.projected]
    simp only [stored, free]
    cases projected : book.balance with
    | none =>
      have empty := book_sound.projected.mp projected
      refine .inl ⟨empty, Int64.toInt_inj.mp ?_, rfl, rfl⟩
      rw [reconciles.sum, empty]
      rfl
    | some b =>
      have some_entry : book.entries ≠ [] := fun empty => by
        cases projected.symm.trans (book_sound.projected.mpr empty)
      refine .inr ⟨b, some_entry, rfl, Int64.toInt_inj.mp ?_, rfl⟩
      rw [reconciles.sum, book_sound.exact b projected]

/-- In a run of the service the books are never at fault. No posting finds them so, and every wallet
with a proper key reconciles, to the balance that it is said to have. -/
theorem consistent_of_run (served : ∀ s ∈ script, s.2.serves = true) :
    (∀ {stamp op key p e}, op.posting? = some (key, p) →
        (step stamp (run .empty script).2 op).answer = .error (.failed e) → ¬ e.BlamesBooks) ∧
      ∀ stamp key, Agrees (run .empty script).2 stamp key := by
  have sound : Sound (run .empty script).2 := sound_after served
  have closed : (run .empty script).2.held = [] := held_after served
  refine ⟨fun posts failed => blameless_of_posting sound posts failed, fun stamp key => ?_⟩
  exact agrees_of_sound stamp sound (free_of_closed closed)

/-- In the sample an amount is as large as amounts can be, a posting fails at a point, and another
one would overflow the balance. To reconcile a wallet without a name is refused. -/
theorem consistent_of_sampleRun :
    (∀ s ∈ sampleRun, s.2.serves = true) ∧
      (step (sampleStamp 8) (run .empty (sampleRun.take 4)).2
        (.credit sampleKey (samplePosting 1 "excess"))).answer =
          .error (.failed (.persistence .balanceOverflow)) ∧
      ¬ (WalletError.persistence .balanceOverflow).BlamesBooks ∧
      ∃ book, (run .empty sampleRun).2.books sampleKey = some book ∧ book.entries.length = 2 ∧
        sampleKey.refusal? = none ∧ Agrees (run .empty sampleRun).2 (sampleStamp 9) sampleKey ∧
        (step (sampleStamp 9) (run .empty sampleRun).2 (.reconcile ⟨"acme", ""⟩)).answer =
          .error (.failed (.invalidArgument .walletIdRequired)) := by
  have served : ∀ s ∈ sampleRun, s.2.serves = true := by decide
  have before : ∀ s ∈ sampleRun.take 4, s.2.serves = true :=
    fun s mem => served s (List.mem_of_mem_take mem)
  obtain ⟨blameless, -⟩ := consistent_of_run before
  obtain ⟨-, agrees⟩ := consistent_of_run served
  have overflow : (step (sampleStamp 8) (run .empty (sampleRun.take 4)).2
      (.credit sampleKey (samplePosting 1 "excess"))).answer =
    .error (.failed (.persistence .balanceOverflow)) := rfl
  exact ⟨served, overflow, blameless rfl overflow, _, rfl, rfl, rfl, agrees (sampleStamp 9) sampleKey,
    (agrees (sampleStamp 9) ⟨"acme", ""⟩).unnamed (by decide)⟩

/-- A wallet with a blank workspace can be registered, and to reconcile it is refused. -/
theorem reconcile_of_blank_workspace :
    ¬ ∀ (script : List (Stamp × Op)) (stamp : Stamp) (key : WalletKey) (book : Book),
      (∀ s ∈ script, s.2.serves = true) → (run .empty script).2.books key = some book →
        ∃ r, (step stamp (run .empty script).2 (.reconcile key)).answer =
          .ok (.reconciliation r) := by
  intro claim
  let key : WalletKey := ⟨"", "main"⟩
  obtain ⟨r, answer⟩ := claim [(sampleStamp 0, .createWallet (sampleWallet key))] (sampleStamp 1) key
    _ (by decide) rfl
  cases answer

end Ledger

end CallExchange
