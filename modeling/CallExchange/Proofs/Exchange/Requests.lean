import CallExchange.Proofs.Exchange.Ledger

/-!
# Requests to the ledger of an exchange

Requests are operations of the ledger that an exchange carries out one after the other, each at a
moment of its own. To the ledger they are a run, with the stamps that the exchange gives out.

## Main definitions

* `Exchange.Request` — an operation and its moment
* `Exchange.serve` — what comes of a list of requests
* `Exchange.script` — the stamped operations that the ledger sees

## Main results

* `serve_eq_run` — requests are steps of the exchange, between which the clock moves
* `ledger_serve` — the ledger afterwards is that after a run of the ledger
* `result_of_serve` — a result is that of its request, after those before it
-/

namespace CallExchange.Exchange

variable {x : Exchange}

/-- An operation of the ledger and the moment at which it is asked for. -/
abbrev Request := Instant × Ledger.Op

/-- The exchange at a later moment, with nothing in between. -/
def later (x : Exchange) (now : Instant) : Exchange := (x.step (.setNow now)).next

/-- What comes of a request. -/
def request (x : Exchange) (q : Request) : Result := (x.later q.1).step (.ledger q.2)

/-- The results of requests that are made one after the other, and the exchange after them. -/
def serve (x : Exchange) : List Request → List Result × Exchange
  | [] => ([], x)
  | q :: rest =>
    let (results, next) := serve (x.request q).next rest
    (x.request q :: results, next)

/-- The operations that the ledger of the exchange carries out, with their stamps. -/
def script (x : Exchange) : List Request → List (Stamp × Ledger.Op)
  | [] => []
  | q :: rest => ((x.later q.1).stamp, q.2) :: script (x.request q).next rest

/-- The answer is that of an operation of the ledger. -/
def Answer.isLedger : Answer → Bool
  | .ledger _ => true
  | _ => false

/-- To serve requests is to move the clock and to carry out the operation, one after the other. -/
theorem serve_eq_run (requests : List Request) :
    (x.serve requests).1 =
      (x.run (requests.flatMap fun q => [.setNow q.1, .ledger q.2])).filter
        fun r => r.answer.isLedger := by
  induction requests generalizing x with
  | nil => rfl
  | cons q rest ih =>
    -- the answer to the clock is dropped, and the one to the operation stays
    exact congrArg (x.request q :: ·) ih

theorem ledger_serve (requests : List Request) :
    (x.serve requests).2.ledger = Ledger.after x.ledger (x.script requests) := by
  induction requests generalizing x with
  | nil => rfl
  | cons q rest ih => exact ih

theorem length_serve (requests : List Request) : (x.serve requests).1.length = requests.length := by
  induction requests generalizing x with
  | nil => rfl
  | cons q rest ih => simp only [serve, List.length_cons, ih]

/-- The ledger sees the operations of the requests. -/
theorem map_snd_script (requests : List Request) :
    (x.script requests).map (·.2) = requests.map (·.2) := by
  induction requests generalizing x with
  | nil => rfl
  | cons q rest ih => simp only [script, List.map_cons, ih]

theorem serves_script {requests : List Request} (served : ∀ q ∈ requests, q.2.serves = true) :
    ∀ s ∈ x.script requests, s.2.serves = true := by
  intro s mem
  have op : s.2 ∈ requests.map (·.2) := map_snd_script (x := x) requests ▸ List.mem_map_of_mem mem
  obtain ⟨q, asked, same⟩ := List.mem_map.mp op
  exact same ▸ served q asked

/-- The identifiers of entries are given out in the order in which the exchange counts. -/
theorem entryIds_script (requests : List Request) :
    (x.script requests).map (·.1.entryId) =
      (List.range' x.operations requests.length).map x.ids.entry := by
  induction requests generalizing x with
  | nil => rfl
  | cons q rest ih =>
    rw [script, List.map_cons, ih, List.length_cons, List.range'_succ, List.map_cons]
    rfl

/-- A result is that of its request, after the requests before it. -/
theorem result_of_serve {requests : List Request} {i : Nat} {q : Request} {r : Result}
    (asked : requests[i]? = some q) (result : (x.serve requests).1[i]? = some r) :
    r = (x.serve (requests.take i)).2.request q := by
  induction requests generalizing x i with
  | nil => cases asked
  | cons first rest ih =>
    cases i with
    | zero =>
      cases asked
      cases result
      rfl
    | succ i => exact ih asked result

/-- The stamped operation of a request. -/
theorem script_getElem? {requests : List Request} {i : Nat} {q : Request}
    (asked : requests[i]? = some q) :
    (x.script requests)[i]? = some (((x.serve (requests.take i)).2.later q.1).stamp, q.2) := by
  induction requests generalizing x i with
  | nil => cases asked
  | cons first rest ih =>
    cases i with
    | zero =>
      cases asked
      rfl
    | succ i => exact ih asked

end CallExchange.Exchange
