import CallExchange.Proofs.Ledger.Service

/-!
# Soundness of the books

As long as only the service posts, the balance of a wallet is what its entries add up to, and no
beginning of its history adds up to less than nothing or to more than an amount can be. The facts
only hold together: that a debit does not overdraw the wallet rests on the projection being the sum,
that the projection is the sum rests on the movement being exact, and that a wallet without a
projection may be taken for empty rests on the two appearing together.

## Main definitions

* `Entry.total` — the exact sum of the amounts of entries
* `Book.projected` — what the projection of a book shows
* `Posting.movement` — what a posting does to the sum
* `Book.Sound` — the invariant of a book

## Main results

* `Book.Sound.recorded` — a written posting keeps the invariant
* `sound_after` — every book of every run of the service is sound
* `book_sound_of_run` — the invariant, and that nothing wraps in the posting that comes next
-/

namespace CallExchange

open Text

/-! ### Sums of entries -/

namespace Entry

/-- The exact sum of the amounts of entries. -/
def total : List Entry → Int
  | [] => 0
  | e :: es => e.amount.toInt + total es

@[simp] theorem total_nil : total [] = 0 := rfl

@[simp] theorem total_cons {e : Entry} {es : List Entry} :
    total (e :: es) = e.amount.toInt + total es := rfl

@[simp] theorem total_append {es fs : List Entry} : total (es ++ fs) = total es + total fs := by
  induction es with
  | nil => simp
  | cons e es ih => simp only [List.cons_append, total_cons, ih, Int.add_assoc]

end Entry

/-- What a book projects; nothing stands for zero. -/
def Book.projected (book : Book) : Int := book.balance.elim 0 fun b => b.amount.toInt

/-! ### Movements -/

/-- What a posting does to the sum of a wallet's entries. -/
def Posting.movement (p : Posting) : Int :=
  match p.kind with
  | .credit | .adminCredit .. => p.amount.toInt
  | .debit => -p.amount.toInt

theorem Minor.toInt_neg_of_pos {a : Minor} (positive : 0 < a.toInt) : (-a).toInt = -a.toInt := by
  have := a.toInt_lt
  rw [Int64.toInt_neg]
  exact Int.bmod_eq_of_le (by omega) (by omega)

namespace Posting

variable {p : Posting} {key : WalletKey}

theorem amount_pos_of_checked (checked : p.objection? key = none) : 0 < p.amount.toInt := by
  simp only [objection?, refusal?, Option.or_eq_none_iff] at checked
  obtain ⟨-, -, checked⟩ := checked
  split at checked
  · cases checked
  · next positive =>
    rw [Int64.not_le, Int64.lt_iff_toInt_lt] at positive
    simpa using positive

theorem keyed_of_checked (checked : p.objection? key = none) :
    isBlank p.idempotencyKey = false := by
  simp only [objection?, refusal?, Option.or_eq_none_iff] at checked
  obtain ⟨-, -, checked⟩ := checked
  split at checked
  · cases checked
  split at checked
  · cases checked
  split at checked
  · cases checked
  · next keyed => simpa using keyed

/-- The negation of an amount that has passed the checks does not wrap. -/
theorem toInt_signed (checked : p.objection? key = none) : p.signed.toInt = p.movement := by
  have positive := amount_pos_of_checked checked
  cases kind : p.kind with
  | debit =>
    have exact := Minor.toInt_neg_of_pos positive
    simpa [signed, PostingKind.signed, movement, kind] using exact
  | _ => simp [signed, PostingKind.signed, movement, kind]

end Posting

/-- A moved projection shows the old amount, or nothing, and the movement; the rest of its row is
that of the old one, or the wallet's. -/
theorem Balance.of_moved? {w : Wallet} {current : Option Balance} {currency : String}
    {delta : Minor} {now : Instant} {b : Balance}
    (moved : Balance.moved? w current currency delta now = some b) :
    b.amount.toInt = (current.elim 0 fun c => c.amount.toInt) + delta.toInt ∧ b.updatedAt = now ∧
      (b.workspaceId, b.walletId, b.currency) =
        current.elim (w.workspaceId, w.id, currency) fun c =>
          (c.workspaceId, c.walletId, c.currency) := by
  cases current with
  | none =>
    cases moved
    simp
  | some c =>
    obtain ⟨sum, added, rfl⟩ := Option.map_eq_some_iff.mp moved
    exact ⟨Minor.toInt_of_add? added, rfl, rfl⟩

/-! ### The invariant -/

/-- An entry of a wallet that the service has posted. -/
structure Entry.Belongs (e : Entry) (w : Wallet) : Prop where
  workspace : e.workspaceId = w.workspaceId
  wallet : e.walletId = w.id
  currency : e.currency = w.currency
  keyed : isBlank e.idempotencyKey = false
  signed : e.entryType = .credit ∧ 0 < e.amount.toInt ∨ e.entryType = .debit ∧ e.amount.toInt < 0

/-- The projection of a wallet as of its last entry. -/
structure Balance.Belongs (b : Balance) (w : Wallet) (es : List Entry) : Prop where
  workspace : b.workspaceId = w.workspaceId
  wallet : b.walletId = w.id
  currency : b.currency = w.currency
  updated : es.getLast?.map (·.createdAt) = some b.updatedAt

/-- The book of a wallet to which only the service has posted. -/
structure Book.Sound (book : Book) (key : WalletKey) : Prop where
  place : book.wallet.key = key
  /-- There is a projection as soon as there is an entry. -/
  projected : book.balance = none ↔ book.entries = []
  exact : ∀ b, book.balance = some b → b.amount.toInt = Entry.total book.entries
  /-- At no time has the wallet been overdrawn, or its balance been too large. -/
  bounded : ∀ es, es <+: book.entries →
    0 ≤ Entry.total es ∧ Entry.total es ≤ Int64.maxValue.toInt
  balance : ∀ b, book.balance = some b → b.Belongs book.wallet book.entries
  entries : ∀ e ∈ book.entries, e.Belongs book.wallet

namespace Book

open Ledger

variable {book : Book} {key : WalletKey} {l : Ledger} {p : Posting} {stamp : Stamp} {b : Balance}

theorem sound_new {w : Wallet} (place : w.key = key) : (Book.new w).Sound key where
  place := place
  projected := by simp [Book.new]
  exact _ some := by cases some
  bounded es start := by
    rw [List.prefix_nil.mp start, Int64.toInt_maxValue]
    decide
  balance _ some := by cases some
  entries _ mem := by cases mem

/-- What a sound book projects: nothing stands for zero. -/
theorem Sound.elim_balance (sound : book.Sound key) :
    (book.balance.elim 0 fun c => c.amount.toInt) = Entry.total book.entries := by
  cases projected : book.balance with
  | none => simp [sound.projected.mp projected]
  | some c => exact sound.exact c projected

/-- A debit with funds leaves something, and a credit adds to what there is. -/
theorem Sound.movement_nonneg (sound : book.Sound key) (writes : Writes l key p book) :
    0 ≤ Entry.total book.entries + p.movement := by
  have positive := Posting.amount_pos_of_checked writes.checked
  have start := (sound.bounded book.entries List.prefix_rfl).1
  have funded := writes.funded
  cases kind : p.kind with
  | credit => simp only [Posting.movement, kind]; omega
  | adminCredit => simp only [Posting.movement, kind]; omega
  | debit =>
    simp only [Posting.movement, kind]
    cases projected : book.balance with
    | none =>
      -- nothing has been posted, and a debit of something is short of funds
      simp only [shortfall?, kind, projected] at funded
      split at funded
      · cases funded
      · next none => exact absurd (Int64.lt_iff_toInt_lt.mpr (by simpa using positive)) none
    | some c =>
      -- the funds that were checked are those of the projection, which is the sum
      simp only [shortfall?, kind, projected] at funded
      split at funded
      · cases funded
      split at funded
      · cases funded
      · next enough =>
        rw [← sound.exact c projected]
        rw [Int64.not_lt, Int64.le_iff_toInt_le] at enough
        omega

/-- The projection after a posting is the exact sum, within bounds. -/
theorem Sound.moved (sound : book.Sound key) (writes : Writes l key p book)
    (moved : Balance.moved? book.wallet book.balance p.currency p.signed stamp.now = some b) :
    b.amount.toInt = Entry.total book.entries + p.movement ∧
      0 ≤ b.amount.toInt ∧ b.amount.toInt ≤ Int64.maxValue.toInt := by
  -- the old amount is the sum, the addition was checked, and the sign change is exact
  have sum : b.amount.toInt = Entry.total book.entries + p.movement := by
    rw [(Balance.of_moved? moved).1, sound.elim_balance, Posting.toInt_signed writes.checked]
  exact ⟨sum, sum ▸ sound.movement_nonneg writes, b.amount.toInt_le⟩

theorem belongs_of_writes (place : book.wallet.key = key) (writes : Writes l key p book) :
    (p.entry stamp key).Belongs book.wallet where
  workspace := by rw [← place]; rfl
  wallet := by rw [← place]; rfl
  currency := writes.currency.symm
  keyed := Posting.keyed_of_checked writes.checked
  signed := by
    have positive := Posting.amount_pos_of_checked writes.checked
    have exact := Posting.toInt_signed writes.checked
    cases kind : p.kind with
    | debit =>
      refine .inr ⟨by simp [kind, PostingKind.entryType], ?_⟩
      simp only [Posting.movement, kind] at exact
      simp only [Posting.amount_entry, exact]
      omega
    | _ =>
      refine .inl ⟨by simp [kind, PostingKind.entryType], ?_⟩
      simp only [Posting.movement, kind] at exact
      simpa only [Posting.amount_entry, exact]

/-- A posting that is written keeps the invariant. -/
theorem Sound.recorded (sound : book.Sound key) (writes : Writes l key p book)
    (moved : Balance.moved? book.wallet book.balance p.currency p.signed stamp.now = some b)
    (a : Option AdminAction) : (book.recorded (p.entry stamp key) b a).Sound key := by
  obtain ⟨sum, low, high⟩ := sound.moved writes moved
  have added : Entry.total (book.entries ++ [p.entry stamp key]) = b.amount.toInt := by
    simp [sum, Posting.toInt_signed writes.checked]
  obtain ⟨-, updated, row⟩ := Balance.of_moved? moved
  refine ⟨sound.place, by simp [Book.recorded], ?_, ?_, ?_, ?_⟩
  · rintro c ⟨⟩
    exact added.symm
  · intro es start
    -- only the full history is a new beginning
    rcases List.prefix_concat_iff.mp start with rfl | start
    · rw [added]
      exact ⟨low, high⟩
    · exact sound.bounded es start
  · rintro c ⟨⟩
    -- the first movement takes the wallet's row, later ones keep the row there is
    have own : (b.workspaceId, b.walletId, b.currency) =
        (book.wallet.workspaceId, book.wallet.id, book.wallet.currency) := by
      rw [row]
      cases projected : book.balance with
      | none => simp [writes.currency]
      | some c =>
        have old := sound.balance c projected
        simp [old.workspace, old.wallet, old.currency]
    simp only [Prod.mk.injEq] at own
    refine ⟨own.1, own.2.1, own.2.2, ?_⟩
    simp [Book.recorded, updated, Posting.entry]
  · intro e mem
    rcases List.mem_append.mp mem with old | new
    · exact sound.entries e old
    · rw [List.mem_singleton.mp new]
      have belongs : (p.entry stamp key).Belongs book.wallet := belongs_of_writes sound.place writes
      exact belongs

end Book

namespace Ledger

variable {l : Ledger} {stamp : Stamp} {op : Op} {key : WalletKey} {book : Book}

/-- Every book of the ledger is sound. -/
def Sound (l : Ledger) : Prop := ∀ key book, l.books key = some book → book.Sound key

theorem sound_empty : Sound .empty := fun _ _ stored => by cases stored

theorem Sound.withBook (sound : Sound l) (new : book.Sound key) : Sound (l.withBook key book) := by
  intro k kept stored
  by_cases same : k = key
  · subst same
    rw [books_withBook_self] at stored
    cases stored
    exact new
  · rw [books_withBook_of_ne same] at stored
    exact sound k kept stored

/-- Each operation of the service keeps the books sound. -/
theorem Sound.step (sound : Sound l) (serves : op.serves = true) :
    Sound (step stamp l op).ledger := by
  cases effect_step l stamp serves with
  | same ledger => rwa [ledger]
  | point ledger => rw [ledger]; exact sound
  | created _ ledger => rw [ledger]; exact sound.withBook (Book.sound_new rfl)
  | written writes moved ledger =>
    rw [ledger]
    exact sound.withBook ((sound _ _ writes.stored).recorded writes moved _)

theorem sound_after {script : List (Stamp × Op)} (served : ∀ s ∈ script, s.2.serves = true) :
    Sound (after .empty script) :=
  after_keeps (fun op => op.serves = true) (fun serves sound => sound.step serves) served
    sound_empty

/-- In every run of the service every book is sound. If the wallet's next posting is written, its
entry moves the balance by exactly what was asked for, and the balance stays within bounds. -/
theorem book_sound_of_run {script : List (Stamp × Op)} (served : ∀ s ∈ script, s.2.serves = true)
    (stored : (run .empty script).2.books key = some book) :
    book.Sound key ∧
      ∀ (stamp : Stamp) (op : Op) (p : Posting) (r : Receipt), op.posting? = some (key, p) →
        (step stamp (run .empty script).2 op).receipt = .ok (some r) → r.replayed = false →
          r.entry.amount.toInt = p.movement ∧
          r.balance.amount.toInt = Entry.total book.entries + p.movement ∧
          0 ≤ r.balance.amount.toInt ∧ r.balance.amount.toInt ≤ Int64.maxValue.toInt := by
  have sound : book.Sound key := sound_after served key book stored
  refine ⟨sound, fun stamp op p r posts answered fresh => ?_⟩
  obtain ⟨committed, b, writes, moved, rfl, -⟩ := written_of_receipt posts answered fresh
  cases stored.symm.trans writes.stored
  obtain ⟨sum, low, high⟩ := sound.moved writes moved
  exact ⟨Posting.toInt_signed writes.checked, sum, low, high⟩

/-- The wallet of the sample, and one more charge. -/
theorem book_sound_of_sampleRun :
    (∀ s ∈ sampleRun, s.2.serves = true) ∧
      ∃ book r, (run .empty sampleRun).2.books sampleKey = some book ∧ book.Sound sampleKey ∧
        book.entries.length = 2 ∧
        (step (sampleStamp 8) (run .empty sampleRun).2
          (.debit sampleKey (samplePosting 7 "later"))).receipt = .ok (some r) ∧
        r.replayed = false ∧ r.entry.amount.toInt = -7 ∧
        r.balance.amount.toInt = Entry.total book.entries + -7 := by
  have served : ∀ s ∈ sampleRun, s.2.serves = true := by decide
  have stored : (run .empty sampleRun).2.books sampleKey = some _ := rfl
  obtain ⟨sound, next⟩ := book_sound_of_run served stored
  obtain ⟨moved, sum, -⟩ := next (sampleStamp 8) (.debit sampleKey (samplePosting 7 "later"))
    _ _ rfl rfl rfl
  exact ⟨served, _, _, rfl, sound, rfl, rfl, rfl, moved, sum⟩

end Ledger

end CallExchange
