import CallExchange.Audit.Queue

/-!
# The audit trail of an exchange

Events are handed to a sink, if there is one. A sink either keeps or refuses each event at once, or
it is the queue of a worker. Handing over is best effort: a refusal is noted and changes nothing
else.

## Main definitions

* `AuditSink` — what takes events
* `AuditTrail` — the sink with the worker's repository
* `AuditTrail.offer` — hands an event to the sink
* `AuditTrail.drain`, `AuditTrail.close`, `AuditTrail.abort` — what can happen to the worker
-/

namespace CallExchange

/-- What takes audit events. -/
inductive AuditSink where
  /-- Refuses the events for which it has an error ready, by their number, and keeps the others. -/
  | direct (refusal : Nat → Option AuditError) (offers : Nat)
  /-- Puts events into the queue of a worker. -/
  | queue (q : AuditQueue)

namespace AuditSink

/-- The sink that keeps every event. -/
def keeping : AuditSink := .direct (fun _ => none) 0

/-- The sink that refuses every event as if its queue were full. -/
def refusing : AuditSink := .direct (fun _ => some .queueFull) 0

end AuditSink

/-- The sink, the events that it has kept, and the worker. -/
structure AuditTrail where
  sink : Option AuditSink
  kept : List AuditEvent
  worker : AuditWorker

namespace AuditTrail

/-- Hands an event to the sink. Without a sink there is nothing to hand it to. -/
def offer (t : AuditTrail) (e : AuditEvent) : Option (Except AuditError Unit) × AuditTrail :=
  match t.sink with
  | none => (none, t)
  | some (.direct refusal offers) =>
    let next := { t with sink := some (.direct refusal (offers + 1)) }
    match refusal offers with
    | none => (some (.ok ()), { next with kept := t.kept ++ [e] })
    | some error => (some (.error error), next)
  | some (.queue q) =>
    let (answer, q) := q.offer e
    (some answer, { t with sink := some (.queue q) })

/-- Hands an event over as far as possible: a refusal becomes a line of the log. -/
def tell (t : AuditTrail) (e : AuditEvent) (refused : AuditError → LogEvent) :
    List LogEvent × AuditTrail :=
  match t.offer e with
  | (some (.error error), t) => ([refused error], t)
  | (some (.ok ()), t) => ([], t)
  | (none, t) => ([], t)

/-- What the sink has kept is taken away. -/
def take (t : AuditTrail) : List AuditEvent × AuditTrail := (t.kept, { t with kept := [] })

/-- Appends the record of an event past the queue, under the identifier of zeros. -/
def append (t : AuditTrail) (e : AuditEvent) (now : Instant) :
    Except AuditError Unit × AuditTrail :=
  let (answer, repository) := t.worker.repository.append (AuditRecord.ofEvent e .nil now)
  (answer, { t with worker := { t.worker with repository } })

/-- The worker takes everything that waits. -/
def drain (t : AuditTrail) (ids : Nat → Uuid) (now : Instant) : List LogEvent × AuditTrail :=
  match t.sink with
  | some (.queue q) =>
    let (lines, line) := AuditLine.drain ids now ⟨q, t.worker⟩
    (lines, { t with sink := some (.queue line.queue), worker := line.worker })
  | _ => ([], t)

/-- The sink is dropped: a worker that still runs takes what waits and ends. The answer tells
whether there was one. -/
def close (t : AuditTrail) (ids : Nat → Uuid) (now : Instant) : Bool × List LogEvent × AuditTrail :=
  match t.sink with
  | some (.queue q) =>
    if q.isOpen then
      let (lines, drained) := t.drain ids now
      (true, lines ++ [.queueClosed], { drained with sink := none })
    else (false, [], { t with sink := none })
  | _ => (false, [], { t with sink := none })

/-- The worker is stopped at once; the sink stays and answers that nobody listens. -/
def abort (t : AuditTrail) : AuditTrail :=
  match t.sink with
  | some (.queue q) => { t with sink := some (.queue q.abort) }
  | _ => t

end AuditTrail

end CallExchange
