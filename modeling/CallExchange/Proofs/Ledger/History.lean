import CallExchange.Proofs.Ledger.Acknowledgement
import CallExchange.Proofs.Ledger.Growth

/-!
# The history of a wallet

The entries and the actions of a wallet are its history. One operation touches the history of no
more than one wallet, and it only appends: a posting one entry, a commit what its transaction has
staged. An idempotency key is used once in a history, and the keys that an open transaction has
staged count as used. That holds even for transactions that stay open over many other operations,
because nobody else can write to their book.

## Main definitions

* `Op.place?` — the wallet that an operation is about
* `Ledger.staged` — the entries that the open transaction of a wallet has staged
* `Ledger.Keyed` — no idempotency key is used twice, not even by what is staged
* `Ledger.Appends` — what an operation does to the histories

## Main results

* `books_elsewhere` — an operation changes the book of its own wallet alone
* `Keyed.step` — every operation keeps the keys apart
* `append_only_of_run` — histories are append-only, and their keys are distinct
-/

namespace CallExchange

/-! ### Keys of entries -/

/-- The idempotency keys of entries. -/
def Entry.keys (es : List Entry) : List String := es.map (·.idempotencyKey)

/-- An entry whose key is not found among others may join them. -/
theorem Entry.nodup_keys_concat {es : List Entry} {e : Entry}
    (free : Entry.find? es e.idempotencyKey = none) (distinct : (Entry.keys es).Nodup) :
    (Entry.keys (es ++ [e])).Nodup := by
  have unused : ∀ other ∈ es, other.idempotencyKey ≠ e.idempotencyKey := by
    simpa [Entry.find?] using free
  have split : Entry.keys (es ++ [e]) = Entry.keys es ++ [e.idempotencyKey] := by
    simp [Entry.keys]
  rw [split]
  refine distinct.append (List.nodup_singleton _) fun key used new => ?_
  obtain ⟨other, mem, rfl⟩ := List.mem_map.mp used
  exact unused other mem (List.mem_singleton.mp new)

namespace Ledger

variable {l next : Ledger} {stamp : Stamp} {op : Op} {key : WalletKey} {book : Book} {name : String}
  {tx tx' : Transaction}

/-! ### The place of an operation -/

/-- The wallet that an operation is about: the one that it names, or that of the open transaction
that it names. -/
def Op.place? (l : Ledger) : Op → Option WalletKey
  | .inside name _ | .commit name | .rollback name => (l.held? name).map (·.key)
  | op => op.named?

/-- An operation of the service changes the book of the wallet that it names alone. -/
theorem books_of_served (serves : op.serves = true) (other : op.named? ≠ some key) :
    (step stamp l op).ledger.books key = l.books key := by
  cases served_step l stamp serves with
  | unchanged _ _ ledger => rw [ledger]
  | armed _ _ ledger => rw [ledger, books_withPoint]
  | created _ _ _ ledger _ named =>
    rw [ledger]
    exact books_withBook_of_ne fun same => other (same ▸ named)
  | posted posts posted =>
    have named := named_of_posting posts
    cases posted with
    | failed _ _ ledger => rw [ledger]
    | waited _ _ _ _ ledger => rw [ledger]
    | tripped _ _ _ ledger => rw [ledger, books_withPoint]
    | replayed _ _ _ _ _ ledger => rw [ledger]
    | written _ _ _ _ ledger =>
      rw [ledger]
      exact books_withBook_of_ne fun same => other (same ▸ named)

/-- An operation changes the book of its own wallet alone. -/
theorem books_elsewhere (other : op.place? l ≠ some key) :
    (step stamp l op).ledger.books key = l.books key := by
  cases op with
  | begin name wallet =>
    rw [step_begin]
    cases l.books wallet with
    | none => rfl
    | some book => by_cases held : (l.release name).isHeld wallet <;> simp [held]
  | inside name work =>
    rw [step_inside]
    cases opened : l.held? name with
    | none => rfl
    | some tx =>
      have worked : Worked tx (.of l) ((work.run stamp tx).run (.of l)) := worked_run work
      simp only
      generalize (work.run stamp tx).run (.of l) = result at worked
      cases worked <;> rfl
  | commit name =>
    rw [step_commit]
    cases opened : l.held? name with
    | none => rfl
    | some tx =>
      have apart : key ≠ tx.key := fun same => other (by simp [Op.place?, opened, same])
      by_cases armed : l.armed .commit
      · simp [armed]
      · simp [armed, books_withBook_of_ne apart]
  | rollback name =>
    rw [step_rollback]
    cases l.held? name <;> rfl
  | _ => exact books_of_served rfl other

/-! ### Distinct keys -/

/-- The entries that the open transaction of a wallet has staged. -/
def staged (l : Ledger) (key : WalletKey) : List Entry :=
  match l.held.find? fun h => h.tx.key = key with
  | some h => h.tx.newEntries
  | none => []

/-- No idempotency key is used twice in a book, nor in what an open transaction sees of it. -/
structure Keyed (l : Ledger) : Prop where
  books : ∀ key book, l.books key = some book → (Entry.keys book.entries).Nodup
  held : ∀ h ∈ l.held, (Entry.keys h.tx.entries).Nodup

theorem keyed_empty : Keyed .empty where
  books _ _ stored := by cases stored
  held _ mem := by cases mem

/-- What a step inside a transaction stages has a key of its own. -/
theorem nodup_keys_of_staged (change : Staged tx tx') (distinct : (Entry.keys tx.entries).Nodup) :
    (Entry.keys tx'.entries).Nodup := by
  cases change with
  | same | balance | action => exact distinct
  | @entry e free =>
    have appended : Transaction.entries { tx with newEntries := tx.newEntries ++ [e] } =
        tx.entries ++ [e] := by
      simp [Transaction.entries]
    rw [appended]
    exact Entry.nodup_keys_concat free distinct

namespace Keyed

theorem withBook (keyed : Keyed l) (distinct : (Entry.keys book.entries).Nodup) :
    Keyed (l.withBook key book) where
  books k kept stored := by
    by_cases same : k = key
    · subst same
      rw [books_withBook_self] at stored
      cases stored
      exact distinct
    · rw [books_withBook_of_ne same] at stored
      exact keyed.books k kept stored
  held := keyed.held

theorem release (keyed : Keyed l) (name : String) : Keyed (l.release name) where
  books := keyed.books
  held h mem := keyed.held h (List.mem_of_mem_filter mem)

theorem effect (keyed : Keyed l) (effect : Effect l stamp next) : Keyed next := by
  cases effect with
  | same ledger => rwa [ledger]
  | point ledger => exact ledger ▸ ⟨keyed.books, keyed.held⟩
  | created _ ledger =>
    rw [ledger]
    exact keyed.withBook List.nodup_nil
  | written writes _ ledger =>
    -- the key of a posting that is written has not been found in the book
    rw [ledger]
    refine keyed.withBook (Entry.nodup_keys_concat ?_ (keyed.books _ _ writes.stored))
    exact writes.unused

theorem begun (keyed : Keyed l) (stored : l.books key = some book) :
    Keyed ((l.release name).hold name (.opened key book)) where
  books := keyed.books
  held h mem := by
    rcases List.mem_append.mp mem with old | new
    · exact ((keyed.release name).release name).held h old
    · -- a transaction that has just been opened sees the committed entries
      rw [List.mem_singleton.mp new]
      have sees : (Transaction.opened key book).entries = book.entries := by
        simp [Transaction.entries, Transaction.opened]
      rw [sees]
      exact keyed.books key book stored

theorem worked (keyed : Keyed l) (opened : l.held? name = some tx) (change : Staged tx tx') :
    Keyed (l.replace name tx') where
  books := keyed.books
  held h mem := by
    obtain ⟨old, held, rfl⟩ := List.mem_map.mp mem
    by_cases named : old.name = name
    · simp only [swapped, named, if_true]
      exact nodup_keys_of_staged change (keyed.held _ (mem_of_held? opened))
    · simp only [swapped, named, if_false]
      exact keyed.held old held

/-- Every operation keeps the keys of each wallet apart, those that are staged included. -/
theorem step (keyed : Keyed l) (stamp : Stamp) (op : Op) : Keyed (step stamp l op).ledger := by
  cases move_step l stamp op with
  | effect effect => exact keyed.effect effect
  | begun stored _ ledger => exact ledger ▸ keyed.begun stored
  | worked opened change ledger => exact ledger ▸ keyed.worked opened change
  | released ledger => exact ledger ▸ keyed.release _
  | @interrupted name _ ledger =>
    have released := keyed.release name
    exact ledger ▸ ⟨released.books, released.held⟩
  | committed opened ledger =>
    -- the entries that are committed are those that the transaction has seen
    have seen := keyed.held _ (mem_of_held? opened)
    exact ledger ▸ (keyed.release _).withBook seen

/-- The committed keys of a wallet and those that its open transaction has staged are distinct. -/
theorem nodup_staged (keyed : Keyed l) (exclusive : Exclusive l)
    (stored : l.books key = some book) : (Entry.keys (book.entries ++ staged l key)).Nodup := by
  unfold staged
  cases found : l.held.find? fun h => h.tx.key = key with
  | none =>
    rw [List.append_nil]
    exact keyed.books key book stored
  | some h =>
    have mem := List.mem_of_find?_eq_some found
    have place : h.tx.key = key := by simpa using List.find?_some found
    -- the transaction works on the committed book, so that it sees these entries
    have current : l.books key = some h.tx.book := place ▸ exclusive.current h mem
    cases stored.symm.trans current
    exact keyed.held h mem

end Keyed

/-- In every run the keys of each wallet stay apart. -/
theorem keyed_after (script : List (Stamp × Op)) : Keyed (after .empty script) :=
  after_keeps (fun _ => True) (fun _ keyed => keyed.step _ _) (fun _ _ => trivial) keyed_empty

/-! ### Append-only histories -/

/-- What an operation does to the histories of the wallets. -/
structure Appends (l : Ledger) (op : Op) (next : Ledger) : Prop where
  /-- A wallet stays as it was registered, and its history is only continued. -/
  continued : ∀ {key book}, l.books key = some book → ∃ new, next.books key = some new ∧
    new.wallet = book.wallet ∧ book.entries <+: new.entries ∧ book.actions <+: new.actions
  elsewhere : ∀ {key}, op.place? l ≠ some key → next.books key = l.books key
  /-- An operation of the service appends one entry and one action at most. -/
  single : op.serves = true → ∀ key, ∃ (e : Option Entry) (a : Option AdminAction),
    committed next key = committed l key ++ e.toList ∧
      committedActions next key = committedActions l key ++ a.toList

theorem appends_step (exclusive : Exclusive l) (stamp : Stamp) (op : Op) :
    Appends l op (step stamp l op).ledger where
  continued {key book} stored := by
    obtain ⟨new, kept, extended⟩ := grows_step exclusive stamp op key book stored
    exact ⟨new, kept, extended.wallet, extended.entries, extended.actions⟩
  elsewhere := books_elsewhere
  single serves key := ⟨_, _, adds_step l stamp key serves⟩

/-- In every run, whatever operations and open transactions it mixes, each operation only appends to
the history of its own wallet, and no idempotency key of a wallet comes twice among what is
committed and what is staged. -/
theorem append_only_of_run (script : List (Stamp × Op)) :
    (∀ i stamp op, script[i]? = some (stamp, op) →
      Appends (run .empty (script.take i)).2 op (run .empty (script.take (i + 1))).2) ∧
    ∀ key book, (run .empty script).2.books key = some book →
      (Entry.keys (book.entries ++ staged (run .empty script).2 key)).Nodup := by
  constructor
  · intro i stamp op operation
    have next : (run .empty (script.take (i + 1))).2 =
        (step stamp (after .empty (script.take i)) op).ledger := after_take_succ operation
    rw [next]
    exact appends_step (exclusive_after (script.take i)) stamp op
  · intro key book stored
    exact (keyed_after script).nodup_staged (exclusive_after script) stored

end Ledger

end CallExchange
