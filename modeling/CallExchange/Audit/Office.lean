import CallExchange.Audit.Queue

/-!
# Sinks and worker side by side

The sink of a line can be cloned. Each clone offers events on its own account, the worker receives
and appends on its own account, and their moves come in any order. The worker ends when it finds the
queue empty and no clone is left that could fill it again.

## Main definitions

* `AuditOffice` — a line, the clones of its sink, and whether its worker has ended
* `AuditOffice.Sight` — what is seen of a move
* `AuditOffice.Step`, `AuditOffice.Run` — one move, and moves in any order
* `AuditOffice.accepted`, `AuditOffice.tries` — what sinks have accepted, and what the worker has
  tried to append
-/

namespace CallExchange

/-- A line in operation. -/
structure AuditOffice where
  line : AuditLine
  /-- The number of clones of the sink that have not been dropped. -/
  sinks : Nat
  /-- The worker has ended. -/
  ended : Bool
  deriving Repr

namespace AuditOffice

/-- An append of a record and what the repository answered. -/
structure Try where
  event : AuditEvent
  record : AuditRecord
  answer : Except AuditError Unit

/-- The repository has taken the record. -/
def Try.isKept (t : Try) : Bool := t.answer.isOk

/-- What is seen of a move. -/
inductive Sight where
  /-- Sinks come and go, and the worker receives. -/
  | nothing
  | answered (e : AuditEvent) (answer : Except AuditError Unit)
  | tried (t : Try)
  | ended

/-- An office with one sink and an idle worker. -/
def start (capacity : Nat) (repository : AuditRepository) : AuditOffice :=
  ⟨⟨.new capacity, .idle repository⟩, 1, false⟩

/-- The worker's try to append the event in its hand. -/
def attempt (ids : Nat → Uuid) (now : Instant) (w : AuditWorker) (e : AuditEvent) : Try :=
  let record := AuditRecord.ofEvent e (ids w.numbered) now
  ⟨e, record, (w.repository.append record).1⟩

/-- One move of a sink or of the worker. -/
inductive Step (ids : Nat → Uuid) : AuditOffice → Sight → AuditOffice → Prop
  | clone {s : AuditOffice} (inUse : 0 < s.sinks) :
      Step ids s .nothing { s with sinks := s.sinks + 1 }
  | drop {s : AuditOffice} (inUse : 0 < s.sinks) :
      Step ids s .nothing { s with sinks := s.sinks - 1 }
  | record {s : AuditOffice} (inUse : 0 < s.sinks) (e : AuditEvent) :
      Step ids s (.answered e (s.line.queue.offer e).1)
        { s with line := { s.line with queue := (s.line.queue.offer e).2 } }
  | receive {s : AuditOffice} (runs : s.ended = false) (free : s.line.worker.inHand = none)
      (waits : s.line.queue.waiting ≠ []) :
      Step ids s .nothing { s with line := s.line.receive }
  | append {s : AuditOffice} {e : AuditEvent} (runs : s.ended = false)
      (busy : s.line.worker.inHand = some e) (now : Instant) :
      Step ids s (.tried (attempt ids now s.line.worker e))
        { s with line := (s.line.append ids now).2 }
  /-- Nothing waits and nothing can come any more. -/
  | finish {s : AuditOffice} (runs : s.ended = false) (free : s.line.worker.inHand = none)
      (empty : s.line.queue.waiting = []) (unused : s.sinks = 0) :
      Step ids s .ended { s with line := { s.line with queue := s.line.queue.abort }, ended := true }

/-- Moves in any order, with what is seen of them. -/
inductive Run (ids : Nat → Uuid) (s : AuditOffice) : List Sight → AuditOffice → Prop
  | nil : Run ids s [] s
  | snoc {sights : List Sight} {t u : AuditOffice} {sight : Sight} (run : Run ids s sights t)
      (step : Step ids t sight u) : Run ids s (sights ++ [sight]) u

/-- The event that a sink is seen to accept. -/
def Sight.accepted? : Sight → Option AuditEvent
  | .answered e (.ok ()) => some e
  | _ => none

/-- The try that is seen. -/
def Sight.tried? : Sight → Option Try
  | .tried t => some t
  | _ => none

/-- The events that sinks have accepted, in order. -/
def accepted (sights : List Sight) : List AuditEvent := sights.filterMap Sight.accepted?

/-- The worker's tries to append, in order. -/
def tries (sights : List Sight) : List Try := sights.filterMap Sight.tried?

end AuditOffice

end CallExchange
