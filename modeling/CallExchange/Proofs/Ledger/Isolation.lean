import CallExchange.Proofs.Ledger.History
import CallExchange.Proofs.Ledger.Mirror

/-!
# Isolation of wallets

Transactions on different wallets may be open at the same time, and their steps may come in any
order, mixed with operations of the service. As long as no fail point is armed, no wallet notices
anything of the others: what is asked of it is answered as if nothing else were asked, and its book
ends up the same. Fail points have to be left out because all wallets share them.

## Main definitions

* `Op.part?` — what an operation is to a wallet
* `Ledger.isolated` — the operations of a script that concern a wallet, under other identifiers
* `Ledger.answersAt` — the answers to them

## Main results

* `part_elsewhere` — an operation that does not concern a wallet leaves its part as it is
* `mirrored_step` — an operation that does is answered on the part as on the whole
* `isolated_run` — runs
-/

namespace CallExchange.Ledger

variable {ρ : Uuid → Uuid} {key k : WalletKey} {l : Ledger} {name : String}
  {tx tx' : Transaction} {stamp : Stamp} {op : Op} {book : Book}

/-- Opening a transaction gives up one that is open under the same name. -/
def Op.givenUp? : Op → Option Op
  | .begin name _ => some (.rollback name)
  | _ => none

/-- What an operation is to a wallet: the operation itself if it is about the wallet, and the end of
the transaction on the wallet that it gives up. -/
def Op.part? (l : Ledger) (key : WalletKey) (op : Op) : Option Op :=
  if op.place? l = some key then some op
  else op.givenUp?.filter fun other => other.place? l = some key

/-- The operations of a script that concern a wallet, at the same moments, with other
identifiers. -/
def isolated (ρ : Uuid → Uuid) (key : WalletKey) (l : Ledger) :
    List (Stamp × Op) → List (Stamp × Op)
  | [] => []
  | s :: rest =>
    ((s.2.part? l key).map fun op => (s.1.rename ρ, op.rename ρ)).toList ++
      isolated ρ key (step s.1 l s.2).ledger rest

/-- The answers of a script to the operations that concern a wallet. -/
def answersAt (key : WalletKey) (l : Ledger) :
    List (Stamp × Op) → List (Except (Halt WalletError) Answer)
  | [] => []
  | s :: rest =>
    ((s.2.part? l key).map fun op => (step s.1 l op).answer).toList ++
      answersAt key (step s.1 l s.2).ledger rest

/-- An operation that concerns a wallet is about it, or opens a transaction elsewhere under the name
of the one on the wallet. -/
theorem part?_eq_some {own : Op} (concerns : op.part? l key = some own) :
    op.place? l = some key ∧ own = op ∨
      ∃ name k tx, op = .begin name k ∧ k ≠ key ∧ l.held? name = some tx ∧ tx.key = key ∧
        own = .rollback name := by
  by_cases place : op.place? l = some key
  · rw [Op.part?, if_pos place] at concerns
    exact .inl ⟨place, (Option.some.inj concerns).symm⟩
  · rw [Op.part?, if_neg place] at concerns
    obtain ⟨ends, ended⟩ := Option.filter_eq_some_iff.mp concerns
    cases op with
    | begin name k =>
      cases ends
      obtain ⟨tx, opened, same⟩ := Option.map_eq_some_iff.mp (of_decide_eq_true ended)
      exact .inr ⟨name, k, tx, rfl, fun own => place (congrArg some own), opened, same, rfl⟩
    | _ => cases ends

/-- An operation that does not concern a wallet is not about it, and gives up no transaction on
it. -/
theorem part?_eq_none (elsewhere : op.part? l key = none) :
    op.place? l ≠ some key ∧
      ∀ name k, op = .begin name k → (l.held? name).map (·.key) ≠ some key := by
  by_cases place : op.place? l = some key
  · rw [Op.part?, if_pos place] at elsewhere
    cases elsewhere
  · refine ⟨place, ?_⟩
    rintro name k rfl own
    rw [Op.part?, if_neg place] at elsewhere
    have ended := Option.filter_eq_none_iff.mp elsewhere (.rollback name) rfl
    exact ended (decide_eq_true own)

/-! ### Fail points that are not armed -/

/-- No fail point is armed. -/
def Unarmed (l : Ledger) : Prop := ∀ point, l.armed point = false

/-- A point that is not armed cannot be used up. -/
theorem Unarmed.withPoint (unarmed : Unarmed l) (point : FailPoint) :
    l.withPoint point false = l := by
  have armed : (l.withPoint point false).armed = l.armed := by
    funext q
    by_cases same : q = point
    · simp [Ledger.withPoint, same, unarmed point]
    · simp [Ledger.withPoint, same]
  exact congrArg (fun armed => Ledger.mk l.books armed l.held) armed

/-- What an operation of the service does to a ledger on which no fail point is armed. -/
theorem Unarmed.served (unarmed : Unarmed l) (stamp : Stamp) (serves : op.serves = true)
    (never : ∀ point, op ≠ .failNext point) :
    (step stamp l op).ledger = l ∨
      ∃ k new, op.named? = some k ∧ (step stamp l op).ledger = l.withBook k new := by
  cases served_step l stamp serves with
  | unchanged _ _ ledger => exact .inl ledger
  | created _ _ _ ledger _ named => exact .inr ⟨_, _, named, ledger⟩
  | armed _ _ _ _ asked => exact (never _ asked).elim
  | posted posts posted =>
    cases posted with
    | failed _ _ ledger => exact .inl ledger
    | waited _ _ _ _ ledger => exact .inl ledger
    | tripped _ _ _ ledger => exact .inl (ledger.trans (unarmed.withPoint _))
    | replayed _ _ _ _ _ ledger => exact .inl ledger
    | written _ _ _ _ ledger => exact .inr ⟨_, _, named_of_posting posts, ledger⟩

/-- What a step inside an open transaction does to a ledger on which no fail point is armed. -/
theorem Unarmed.inside (unarmed : Unarmed l) (stamp : Stamp) (work : TxOp)
    (opened : l.held? name = some tx) :
    (step stamp l (.inside name work)).ledger = l ∨
      ∃ tx', Staged tx tx' ∧ (step stamp l (.inside name work)).ledger = l.replace name tx' := by
  rw [step_inside, opened]
  have worked : Worked tx (.of l) ((work.run stamp tx).run (.of l)) := worked_run work
  simp only
  generalize (work.run stamp tx).run (.of l) = result at worked
  cases worked with
  | done staged => exact .inr ⟨_, staged, rfl⟩
  | failed => exact .inl rfl
  | tripped => exact .inl (unarmed.withPoint _)

/-- Unless it is asked for, no fail point becomes armed. -/
theorem Unarmed.step (unarmed : Unarmed l) (stamp : Stamp) (never : ∀ point, op ≠ .failNext point) :
    Unarmed (step stamp l op).ledger := by
  have kept : ∀ next : Ledger, next.armed = l.armed → Unarmed next :=
    fun next same point => (congrFun same point).trans (unarmed point)
  have off : l.armed .commit = false := unarmed .commit
  cases op with
  | begin name key =>
    refine kept _ ?_
    rw [step_begin]
    cases l.books key with
    | none => rfl
    | some book => by_cases held : (l.release name).isHeld key <;> simp [held] <;> rfl
  | inside name work =>
    cases opened : l.held? name with
    | none => exact kept _ (by rw [step_inside, opened])
    | some tx =>
      rcases unarmed.inside stamp work opened with same | ⟨tx', -, replaced⟩
      · exact kept _ (by rw [same])
      · exact kept _ (by rw [replaced]; rfl)
  | commit name =>
    refine kept _ ?_
    rw [step_commit, off]
    cases l.held? name <;> rfl
  | rollback name =>
    refine kept _ ?_
    rw [step_rollback]
    cases l.held? name <;> rfl
  | _ =>
    rcases unarmed.served stamp rfl never with same | ⟨k, new, -, written⟩
    · exact kept _ (by rw [same])
    · exact kept _ (by rw [written]; rfl)

/-! ### Parts -/

theorem part_empty : empty.part ρ key = empty := excerpt_empty

@[simp] theorem books_part : (l.part ρ key).books key = (l.books key).map (·.rename ρ) :=
  books_excerpt (decide_eq_true rfl)

theorem part_withBook :
    (l.withBook key book).part ρ key = (l.part ρ key).withBook key (book.rename ρ) :=
  excerpt_withBook (decide_eq_true rfl)

theorem part_release : (l.release name).part ρ key = (l.part ρ key).release name :=
  excerpt_release

theorem part_withBook_of_ne (other : k ≠ key) :
    (l.withBook k book).part ρ key = l.part ρ key := by
  have books : ((l.withBook k book).part ρ key).books = (l.part ρ key).books := by
    funext wallet
    by_cases same : wallet = key
    · subst same
      simp [excerpt, withBook, Ne.symm other]
    · simp [excerpt, same]
  exact congrArg (fun books => Ledger.mk books l.armed (l.part ρ key).held) books

/-- A transaction that is opened elsewhere is no part, but it ends another one of its name. -/
theorem part_hold_of_ne (other : tx.key ≠ key) :
    (l.hold name tx).part ρ key = (l.part ρ key).release name := by
  rw [← part_release]
  have held : ((l.hold name tx).part ρ key).held = ((l.release name).part ρ key).held := by
    simp [excerpt, hold, List.filter_append, other]
  exact congrArg (Ledger.mk (l.part ρ key).books l.armed) held

theorem held?_of_mem (names : (l.held.map (·.name)).Nodup) (mem : ⟨name, tx⟩ ∈ l.held) :
    l.held? name = some tx := by
  cases found : l.held.find? fun h => h.name = name with
  | none =>
    have unnamed := List.find?_eq_none.mp found _ mem
    simp at unnamed
  | some h =>
    have named : h.name = name := by simpa using List.find?_some found
    have same : h = ⟨name, tx⟩ :=
      List.inj_on_of_nodup_map names (List.mem_of_find?_eq_some found) mem named
    rw [held?, found, same]
    rfl

/-- The open transaction on the wallet is the one in the part. -/
theorem held?_part (exclusive : Exclusive l) (opened : l.held? name = some tx)
    (place : tx.key = key) : (l.part ρ key).held? name = some (tx.rename ρ) := by
  refine held?_of_mem ?_ (List.mem_map.mpr ⟨⟨name, tx⟩, ?_, rfl⟩)
  · have names : (l.part ρ key).held.map (·.name) =
        (l.held.filter fun h => h.tx.key = key).map (·.name) := by
      simp only [part, excerpt, List.map_map]
      rfl
    rw [names]
    exact exclusive.names.sublist (List.filter_sublist.map _)
  · exact List.mem_filter.mpr ⟨mem_of_held? opened, by simpa using place⟩

/-- If the transaction of a name is open elsewhere, the part has nothing to release. -/
theorem release_part (exclusive : Exclusive l)
    (elsewhere : (l.held? name).map (·.key) ≠ some key) :
    (l.part ρ key).release name = l.part ρ key := by
  have others : ∀ h ∈ (l.part ρ key).held, h.name ≠ name := by
    intro h mem named
    obtain ⟨old, kept, rfl⟩ := List.mem_map.mp mem
    obtain ⟨held, place⟩ := List.mem_filter.mp kept
    refine elsewhere ?_
    have same : old = ⟨name, old.tx⟩ := congrArg (HeldTransaction.mk · old.tx) named
    rw [held?_of_mem exclusive.names (same ▸ held)]
    simpa using place
  have held : ((l.part ρ key).release name).held = (l.part ρ key).held :=
    List.filter_eq_self.mpr fun h mem => by simpa using others h mem
  exact congrArg (Ledger.mk (l.part ρ key).books l.armed) held

/-- A step inside the transaction on the wallet is one in the part. -/
theorem part_replace (exclusive : Exclusive l) (opened : l.held? name = some tx)
    (staged : Staged tx tx') :
    (l.replace name tx').part ρ key = (l.part ρ key).replace name (tx'.rename ρ) := by
  have stays : ∀ h ∈ l.held,
      decide ((swapped name tx' h).tx.key = key) = decide (h.tx.key = key) := by
    intro h mem
    by_cases named : h.name = name
    · cases exclusive.eq_of_name opened mem named
      simp [swapped, key_of_staged staged]
    · simp [swapped, named]
  have held : ((l.replace name tx').part ρ key).held =
      ((l.part ρ key).replace name (tx'.rename ρ)).held := by
    simp only [part, excerpt, replace, List.filter_map, Function.comp_def, List.map_map]
    rw [List.filter_congr stays]
    refine List.map_congr_left fun h _ => ?_
    by_cases named : h.name = name <;> simp [swapped, HeldTransaction.rename, named]
  exact congrArg (Ledger.mk (l.part ρ key).books l.armed) held

/-- A step inside a transaction on another wallet does not reach the part. -/
theorem part_replace_of_ne (exclusive : Exclusive l) (opened : l.held? name = some tx)
    (other : tx.key ≠ key) (staged : Staged tx tx') :
    (l.replace name tx').part ρ key = l.part ρ key := by
  have same : ∀ h ∈ l.held, h.tx.key = key ∧ swapped name tx' h = h ∨
      h.tx.key ≠ key ∧ (swapped name tx' h).tx.key ≠ key := by
    intro h mem
    by_cases named : h.name = name
    · cases exclusive.eq_of_name opened mem named
      exact .inr ⟨other, by simpa [swapped, key_of_staged staged] using other⟩
    · by_cases place : h.tx.key = key <;> simp [swapped, named, place]
  have held : ((l.replace name tx').part ρ key).held = (l.part ρ key).held := by
    simp only [part, excerpt, replace, List.filter_map, Function.comp_def, List.map_map]
    have stays : ∀ h ∈ l.held,
        decide ((swapped name tx' h).tx.key = key) = decide (h.tx.key = key) := by
      intro h mem
      rcases same h mem with ⟨place, unchanged⟩ | ⟨apart, apart'⟩
      · rw [unchanged]
      · simp [apart, apart']
    rw [List.filter_congr stays]
    refine List.map_congr_left fun h mem => ?_
    obtain ⟨mem, place⟩ := List.mem_filter.mp mem
    rcases same h mem with ⟨-, unchanged⟩ | ⟨apart, -⟩
    · rw [unchanged]
    · exact absurd (by simpa using place) apart
  exact congrArg (Ledger.mk (l.part ρ key).books l.armed) held

/-! ### One operation -/

/-- To a wallet, a transaction that is opened elsewhere is at most the end of one. -/
theorem part_begin (other : k ≠ key) :
    (step stamp l (.begin name k)).ledger.part ρ key = (l.part ρ key).release name := by
  rw [step_begin]
  cases l.books k with
  | none => exact part_release
  | some book =>
    by_cases held : (l.release name).isHeld k
    · simp only [held, if_true]
      exact part_release
    · simp only [held]
      have again : ((l.release name).hold name (.opened k book)).part ρ key =
          ((l.part ρ key).release name).release name := by
        rw [← part_release]
        exact part_hold_of_ne other
      refine again.trans ?_
      simp only [release, List.filter_filter, Bool.and_self]

/-- An operation that does not concern a wallet leaves its part of the ledger as it is. -/
theorem part_elsewhere (exclusive : Exclusive l) (unarmed : Unarmed l)
    (never : ∀ point, op ≠ .failNext point) (elsewhere : op.part? l key = none) :
    (step stamp l op).ledger.part ρ key = l.part ρ key := by
  obtain ⟨apart, unnamed⟩ := part?_eq_none elsewhere
  cases op with
  | begin name wallet =>
    have other : wallet ≠ key := fun same => apart (congrArg some same)
    rw [part_begin other, release_part exclusive (unnamed name wallet rfl)]
  | inside name work =>
    cases opened : l.held? name with
    | none => rw [step_inside, opened]
    | some tx =>
      have other : tx.key ≠ key := fun same => apart (by simp [Op.place?, opened, same])
      rcases unarmed.inside stamp work opened with same | ⟨tx', staged, new⟩
      · rw [same]
      · rw [new, part_replace_of_ne exclusive opened other staged]
  | commit name =>
    rw [step_commit, unarmed .commit]
    cases opened : l.held? name with
    | none => rfl
    | some tx =>
      have other : tx.key ≠ key := fun same => apart (by simp [Op.place?, opened, same])
      have elsewhere : (l.held? name).map (·.key) ≠ some key := by simp [opened, other]
      simp only [Bool.false_eq_true, if_false]
      rw [part_withBook_of_ne other, part_release, release_part exclusive elsewhere]
  | rollback name =>
    rw [step_rollback]
    cases opened : l.held? name with
    | none => rfl
    | some tx =>
      have elsewhere : (l.held? name).map (·.key) ≠ some key := apart
      exact part_release.trans (release_part exclusive elsewhere)
  | _ =>
    rcases unarmed.served stamp rfl never with same | ⟨k, new, named, written⟩
    · rw [same]
    · have other : k ≠ key := fun same => apart (named.trans (congrArg some same))
      rw [written, part_withBook_of_ne other]

/-- The outcome of an operation on the part of a wallet beside the one on the whole ledger. -/
def Mirrored (ρ : Uuid → Uuid) (key : WalletKey) (o : Outcome) (next : Ledger) (o' : Outcome) :
    Prop :=
  o'.answer = o.answer.map (Answer.rename ρ) ∧ o'.ledger = next.part ρ key

/-- An operation that names the wallet is answered on its part as on the whole. -/
theorem mirrored_named (injective : Function.Injective ρ) (named : op.named? = some key) :
    Mirrored ρ key (step stamp l op) (step stamp l op).ledger
      (step (stamp.rename ρ) (l.part ρ key) (op.rename ρ)) := by
  have outcome : step (stamp.rename ρ) (l.part ρ key) (op.rename ρ) =
      (step stamp l op).excerpt ρ (· = key) := step_excerpt injective named (decide_eq_true rfl)
  rw [outcome]
  exact ⟨rfl, rfl⟩

/-- A step inside the transaction on the wallet is answered on its part as on the whole. -/
theorem mirrored_inside {work : TxOp} (injective : Function.Injective ρ) (exclusive : Exclusive l)
    (opened : l.held? name = some tx) (place : tx.key = key) :
    Mirrored ρ key (step stamp l (.inside name work)) (step stamp l (.inside name work)).ledger
      (step (stamp.rename ρ) (l.part ρ key) (.inside name (work.rename ρ))) := by
  have worked : Worked tx (.of l) ((work.run stamp tx).run (.of l)) := worked_run work
  have twin : Twin ρ (· = key) tx (tx.rename ρ) := ⟨decide_eq_true place, rfl⟩
  have ends := mirrors_run stamp work injective twin (.of l)
  have start : (Desk.of l).excerpt ρ (· = key) = .of (l.part ρ key) := rfl
  rw [step_inside, step_inside, opened, held?_part exclusive opened place]
  rw [start] at ends
  simp only
  generalize (work.run stamp tx).run (.of l) = result at worked ends ⊢
  generalize ((work.rename ρ).run (stamp.rename ρ) (tx.rename ρ)).run (.of (l.part ρ key)) =
    result' at ends ⊢
  cases ends with
  | @ok r r' d values =>
    obtain ⟨answer', tx''⟩ := r'
    obtain ⟨same, twin⟩ := values
    cases worked with
    | @done answer tx' staged =>
      have renamed : tx'' = tx'.rename ρ := twin.renamed
      subst renamed
      refine ⟨congrArg Except.ok same, ?_⟩
      exact (part_replace exclusive opened staged).symm
  | error => exact ⟨rfl, rfl⟩

/-- The end of the transaction on the wallet is answered on its part as on the whole. -/
theorem mirrored_rollback {next : Ledger} (exclusive : Exclusive l)
    (opened : l.held? name = some tx) (place : tx.key = key)
    (released : next.part ρ key = (l.part ρ key).release name) :
    Mirrored ρ key (step stamp l (.rollback name)) next
      (step (stamp.rename ρ) (l.part ρ key) (.rollback name)) := by
  rw [step_rollback, step_rollback, opened, held?_part exclusive opened place]
  exact ⟨rfl, released.symm⟩

theorem mirrored_commit (exclusive : Exclusive l) (unarmed : Unarmed l)
    (opened : l.held? name = some tx) (place : tx.key = key) :
    Mirrored ρ key (step stamp l (.commit name)) (step stamp l (.commit name)).ledger
      (step (stamp.rename ρ) (l.part ρ key) (.commit name)) := by
  subst place
  have off : (l.part ρ tx.key).armed .commit = false := unarmed .commit
  rw [step_commit, step_commit, opened, held?_part exclusive opened rfl, off, unarmed .commit]
  simp only [Bool.false_eq_true, if_false]
  refine ⟨rfl, ?_⟩
  rw [part_withBook, part_release, Transaction.view_rename, Transaction.key_rename]

/-- An operation that concerns a wallet is answered on its part as on the whole. -/
theorem mirrored_step {own : Op} (stamp : Stamp) (injective : Function.Injective ρ)
    (exclusive : Exclusive l) (unarmed : Unarmed l) (concerns : op.part? l key = some own) :
    Mirrored ρ key (step stamp l own) (step stamp l op).ledger
      (step (stamp.rename ρ) (l.part ρ key) (own.rename ρ)) := by
  rcases part?_eq_some concerns with ⟨place, rfl⟩ | ⟨name, k, tx, rfl, other, opened, same, rfl⟩
  · cases own with
    | inside name work =>
      obtain ⟨tx, opened, same⟩ := Option.map_eq_some_iff.mp place
      exact mirrored_inside injective exclusive opened same
    | commit name =>
      obtain ⟨tx, opened, same⟩ := Option.map_eq_some_iff.mp place
      exact mirrored_commit exclusive unarmed opened same
    | rollback name =>
      obtain ⟨tx, opened, same⟩ := Option.map_eq_some_iff.mp place
      refine mirrored_rollback exclusive opened same ?_
      rw [step_rollback, opened]
      exact part_release
    | failNext => cases place
    | createWallet | credit | debit | adminCredit | balance | storedBalance | entries | reconcile
    | adminActions | begin => exact mirrored_named injective place
  · exact mirrored_rollback exclusive opened same (part_begin other)

/-! ### Runs -/

/-- What concerns a wallet is answered as if nothing else were asked, and the part of the wallet
ends up the same. -/
theorem isolated_run (key : WalletKey) {script : List (Stamp × Op)}
    (injective : Function.Injective ρ) (exclusive : Exclusive l) (unarmed : Unarmed l)
    (never : ∀ s ∈ script, ∀ point, s.2 ≠ .failNext point) :
    (run (l.part ρ key) (isolated ρ key l script)).1.map (·.answer) =
        (answersAt key l script).map (Except.map (Answer.rename ρ)) ∧
      (run (l.part ρ key) (isolated ρ key l script)).2 = (after l script).part ρ key := by
  induction script generalizing l with
  | nil => exact ⟨rfl, rfl⟩
  | cons s rest ih =>
    obtain ⟨stamp, op⟩ := s
    have own : ∀ point, op ≠ .failNext point := never (stamp, op) List.mem_cons_self
    have later := ih (exclusive.step stamp op) (unarmed.step stamp own)
      fun s mem => never s (List.mem_cons_of_mem _ mem)
    rw [after_cons]
    simp only [isolated, answersAt]
    cases concerns : op.part? l key with
    | none =>
      -- the operation leaves the part as it is, and the rest goes on from there
      rw [part_elsewhere exclusive unarmed own concerns] at later
      exact later
    | some part =>
      obtain ⟨answer, ledger⟩ :=
        mirrored_step stamp injective exclusive unarmed concerns
      simp only [Option.map_some, Option.toList_some, List.singleton_append, run, List.map_cons]
      rw [ledger, answer]
      exact ⟨congrArg (_ :: ·) later.1, later.2⟩

end CallExchange.Ledger
