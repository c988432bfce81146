import CallExchange.Proofs.Exchange.Ledger
import CallExchange.Proofs.Ledger.Isolation
import CallExchange.Proofs.Ledger.Locks
import CallExchange.Proofs.Routing.Gate
import Mathlib.Logic.Equiv.Basic

/-!
# Wallets that are held

While a transaction is open on a wallet, whatever else needs the wallet waits: the operations of the
service, and calls whose balance gate reads the wallet. What waits has left no trace in the
exchange. What needs other wallets goes on, and on each wallet everything happens as if there were
no other.

## Main definitions

* `Exchange.Waits` — what needs the wallet waits, and has changed nothing

## Main results

* `waits_of_held` — everything that needs a held wallet waits
* `isolation` — open transactions exclude each other on one wallet, and do not matter to another
-/

namespace CallExchange

/-- A reader waits for a wallet that is held. -/
theorem Ledger.read_of_held {l : Ledger} {key : WalletKey} {book : Book}
    (named : key.refusal? = none) (stored : l.books key = some book)
    (held : l.isHeld key = true) : l.read key = .error .waiting := by
  simp only [Ledger.read, Ledger.balance, Ledger.storedBalance, EStateM.run_bind,
    Ledger.run_refuse, named, Ledger.run_book?_of_held stored held]

namespace Exchange

variable {x : Exchange} {key : WalletKey}

/-- Whatever needs the wallet waits. Meanwhile nothing has been written, reported, drawn or logged,
whatever the time and the identifiers are; only the number of operations goes up. -/
structure Waits (x : Exchange) (key : WalletKey) : Prop where
  served : ∀ {op : Ledger.Op}, op.lock? = some key → op.objection? = none →
    x.step (.ledger op) =
      ⟨.ledger (.error .waiting), [], { x with operations := x.operations + 1 }⟩
  /-- A request whose arguments are not in order does not wait. -/
  refused : ∀ {op : Ledger.Op} {cause : Refusal}, op.lock? = some key →
    op.objection? = some cause →
    x.step (.ledger op) =
      ⟨.ledger (.error (.failed (.invalidArgument cause))), [],
        { x with operations := x.operations + 1 }⟩
  /-- A call waits if its balance gate reads the wallet in the ledger. -/
  routed : ∀ {input : RouteInput}, x.balanceSupply = some .ledger →
    key ∈ (x.surroundings.route input).trace.balanceReads →
    x.step (.route input) = ⟨.decision (.error .waiting) (Surroundings.readOnly key), [], x⟩
  inbound : ∀ {r : Resolver} {call : InboundCall} {context : CallContext},
    x.balanceSupply = some .ledger →
    key ∈ (x.surroundings.routeInbound r call context).trace.balanceReads →
    x.step (.routeInbound (.chain r) call context) =
      ⟨.inbound (.error .waiting) (Surroundings.readOnly key), [], x⟩

/-- An operation of the ledger with an outcome that leaves no trace. -/
theorem step_of_outcome {op : Ledger.Op} {answer : Except (Halt WalletError) Ledger.Answer}
    (outcome : Ledger.step x.stamp x.ledger op = ⟨answer, x.ledger, [], []⟩) :
    x.step (.ledger op) = ⟨.ledger answer, [], { x with operations := x.operations + 1 }⟩ := by
  simp only [step, stepLedger, outcome, actionEvents, List.map_nil, tellAll, List.append_nil]

/-- A call whose wallet is held waits at the balance gate. -/
theorem route_of_held {book : Book} {input : RouteInput} (supply : x.balanceSupply = some .ledger)
    (stored : x.ledger.books key = some book) (held : x.ledger.isHeld key = true)
    (asks : key ∈ (x.surroundings.route input).trace.balanceReads) :
    x.surroundings.route input = ⟨.error .waiting, Surroundings.readOnly key⟩ := by
  have balances : x.surroundings.balances = some x.ledger.read := by
    simp only [surroundings, supply, Option.map_some, reader]
  exact Surroundings.route_of_waiting asks balances fun named =>
    Ledger.read_of_held named stored held

/-- Nothing comes of a call that has asked for a balance only and waits. -/
theorem finish_of_waiting :
    x.finish ⟨.error .waiting, Surroundings.readOnly key⟩ = ([], x) := rfl

/-- Everything that needs a held wallet waits. -/
theorem waits_of_held (exclusive : x.ledger.Exclusive) (held : x.ledger.isHeld key = true) :
    Waits x key := by
  -- a transaction is open on a wallet that exists
  obtain ⟨h, mem, place⟩ := List.any_eq_true.mp held
  have place : h.tx.key = key := of_decide_eq_true place
  have stored : x.ledger.books key = some h.tx.book := place ▸ exclusive.current h mem
  refine ⟨fun locks checked => ?_, fun locks found => ?_, fun supply asks => ?_, ?_⟩
  · exact step_of_outcome (Ledger.step_of_held locks checked stored held)
  · exact step_of_outcome (Ledger.step_of_objection locks found)
  · have waiting := route_of_held supply stored held asks
    simp only [step, waiting, finish_of_waiting]
  · intro r call context supply asks
    cases found : r.input call context with
    | error e =>
      simp only [Surroundings.routeInbound, found] at asks
      cases asks
    | ok input =>
      have routes : x.surroundings.routeInbound r call context = x.surroundings.route input := by
        simp only [Surroundings.routeInbound, found]
      rw [routes] at asks
      have waiting := route_of_held supply stored held asks
      simp only [step, routes, waiting, finish_of_waiting]
      rfl

/-- In every interleaving of transactions and operations of the service in which no fail point is
armed, no two transactions are open on one wallet at any moment, whatever needs a held wallet waits
and leaves no trace, and what concerns a wallet is answered as it would be in the run that consists
of nothing else, at the same moments and up to the naming of identifiers, with the same book at the
end. -/
theorem isolation {script : List (Stamp × Ledger.Op)}
    (never : ∀ s ∈ script, ∀ point, s.2 ≠ .failNext point) :
    (∀ i, ((Ledger.run .empty (script.take i)).2.held.map (·.tx.key)).Nodup) ∧
      (∀ i (x : Exchange) key, x.ledger = (Ledger.run .empty (script.take i)).2 →
        x.ledger.isHeld key = true → Waits x key) ∧
      ∀ key (ρ : Uuid → Uuid), Function.Injective ρ →
        (Ledger.run .empty (Ledger.isolated ρ key .empty script)).1.map (·.answer) =
            (Ledger.answersAt key .empty script).map (Except.map (Ledger.Answer.rename ρ)) ∧
          (Ledger.run .empty (Ledger.isolated ρ key .empty script)).2.books key =
            ((Ledger.run .empty script).2.books key).map (·.rename ρ) := by
  have exclusive (i : Nat) : (Ledger.run .empty (script.take i)).2.Exclusive :=
    Ledger.exclusive_after (script.take i)
  refine ⟨fun i => (exclusive i).keys, fun i x key ledger held => ?_, fun key ρ injective => ?_⟩
  · exact waits_of_held (ledger ▸ exclusive i) held
  · -- the part of the wallet in the empty ledger is empty, and at the end it has the book
    have start : Ledger.Unarmed .empty := fun _ => rfl
    obtain ⟨answers, ledger⟩ :=
      Ledger.isolated_run key injective Ledger.exclusive_empty start never
    rw [Ledger.part_empty] at answers ledger
    refine ⟨answers, ?_⟩
    rw [ledger, Ledger.books_part]
    rfl

/-- Another wallet in the workspace of the sample. -/
def spareKey : WalletKey := ⟨"acme", "spare"⟩

/-- A transaction on each of two wallets. A credit comes too early and is made again when its
transaction has ended; the other transaction is given up. -/
def interleaved : List (Stamp × Ledger.Op) :=
  [(Ledger.sampleStamp 0, .createWallet (Ledger.sampleWallet Ledger.sampleKey)),
    (Ledger.sampleStamp 1, .createWallet (Ledger.sampleWallet spareKey)),
    (Ledger.sampleStamp 2, .begin "first" Ledger.sampleKey),
    (Ledger.sampleStamp 3, .begin "second" spareKey),
    (Ledger.sampleStamp 4, .inside "first"
      (.insertEntry ⟨Ledger.sampleId 4, .credit, 40, "USD", "import", none, none, none⟩)),
    (Ledger.sampleStamp 5, .credit Ledger.sampleKey (Ledger.samplePosting 2 "invoice")),
    (Ledger.sampleStamp 6, .inside "second" (.applyDelta "USD" 9)),
    (Ledger.sampleStamp 7, .inside "first" (.applyDelta "USD" 40)),
    (Ledger.sampleStamp 8, .commit "first"),
    (Ledger.sampleStamp 9, .credit Ledger.sampleKey (Ledger.samplePosting 2 "invoice")),
    (Ledger.sampleStamp 10, .rollback "second")]

/-- Seven of the operations concern the first wallet. Alone, and with two identifiers exchanged,
they lead to the same book of two entries. -/
theorem isolation_of_interleaved :
    (∀ s ∈ interleaved, ∀ point, s.2 ≠ .failNext point) ∧
      Waits (sample (Ledger.run .empty (interleaved.take 5)).2 5) Ledger.sampleKey ∧
      let ρ := Equiv.swap (Ledger.sampleId 4) (Ledger.sampleId 9)
      (Ledger.isolated ρ Ledger.sampleKey .empty interleaved).length = 7 ∧
        (Ledger.run .empty (Ledger.isolated ρ Ledger.sampleKey .empty interleaved)).2.books
            Ledger.sampleKey =
          ((Ledger.run .empty interleaved).2.books Ledger.sampleKey).map (·.rename ρ) ∧
        (Ledger.committed (Ledger.run .empty interleaved).2 Ledger.sampleKey).length = 2 := by
  have never : ∀ s ∈ interleaved, ∀ point, s.2 ≠ .failNext point := by
    intro s mem point
    have other : ∀ s ∈ interleaved, s.2.serves = true → s.2.named?.isSome := by decide
    rintro arms
    have named := other s mem
    rw [arms] at named
    cases named rfl
  obtain ⟨-, waits, alone⟩ := isolation never
  exact ⟨never, waits 5 _ _ rfl rfl, rfl, (alone Ledger.sampleKey _ (Equiv.injective _)).2, rfl⟩

end Exchange

end CallExchange
