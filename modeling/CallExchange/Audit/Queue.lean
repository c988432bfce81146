import CallExchange.Audit.Record
import CallExchange.Log
import CallExchange.Text.Blank

/-!
# The audit queue and its worker

Events go into a queue of bounded length, and a worker takes them out one by one and appends their
records to a repository. Nobody waits: an event that finds the queue full is refused. The repository
refuses a record without a workspace and may fail; neither stops the worker. A worker starts with an
empty queue, if there can be one of its capacity.

## Main definitions

* `AuditQueue` — the events that wait, with the capacity
* `AuditQueue.channel`, `ChannelError` — an empty queue, and why there is none
* `AuditQueue.spawn` — the queue of a worker that starts
* `AuditRepository` — the records, with the failures that are to come
* `AuditWorker` — the repository and the event that the worker has in hand
* `AuditLine` — a queue with its worker, and `AuditLine.receive`, `AuditLine.append`,
  `AuditLine.drain` — what the worker does
-/

namespace CallExchange

open Text

/-- Events that wait for the worker. -/
structure AuditQueue where
  capacity : Nat
  waiting : List AuditEvent
  /-- The worker still takes events. -/
  isOpen : Bool
  deriving Repr

/-- Why there is no queue of a capacity. -/
inductive ChannelError where
  | noRoom
  | tooMuchRoom
  deriving DecidableEq, Repr

namespace AuditQueue

/-- An empty queue; it has room for one event at least. -/
def new (capacity : Nat) : AuditQueue := ⟨max capacity 1, [], true⟩

/-- The greatest capacity of a queue: three bits of a count are kept for other purposes. -/
def maxCapacity : UInt64 := (0xFFFFFFFFFFFFFFFF : UInt64) >>> 3

/-- An empty queue that has room for some events, but not for too many. -/
def channel (capacity : UInt64) : Except ChannelError AuditQueue :=
  if capacity = 0 then .error .noRoom
  else if maxCapacity < capacity then .error .tooMuchRoom
  else .ok ⟨capacity.toNat, [], true⟩

/-- The queue of a worker that starts, as `create` makes it. A worker never asks for a queue without
room. -/
def spawn {ε : Type} (create : UInt64 → Except ε AuditQueue) (capacity : UInt64) :
    Except ε AuditQueue :=
  create (max capacity 1)

/-- The capacity that a worker asks for. -/
theorem toNat_max_one (capacity : UInt64) : (max capacity 1).toNat = max capacity.toNat 1 := by
  have raised : max capacity 1 = if capacity ≤ 1 then 1 else capacity := rfl
  simp only [raised, UInt64.le_iff_toNat_le, UInt64.reduceToNat]
  split
  · next small => exact (Nat.max_eq_right small).symm
  · next large => exact (Nat.max_eq_left (Nat.le_of_not_le large)).symm

/-- Within the limit a worker starts with an empty queue. -/
theorem spawn_channel_of_le {capacity : UInt64} (within : capacity ≤ maxCapacity) :
    spawn channel capacity = .ok (new capacity.toNat) := by
  have raised := toNat_max_one capacity
  have some_room : max capacity 1 ≠ 0 := by
    intro empty
    rw [empty, UInt64.toNat_zero] at raised
    omega
  have limited : ¬maxCapacity < max capacity 1 := by
    have limit : maxCapacity.toNat = 2 ^ 61 - 1 := rfl
    rw [UInt64.le_iff_toNat_le] at within
    rw [UInt64.lt_iff_toNat_lt, raised]
    omega
  rw [spawn, channel, if_neg some_room, if_neg limited, raised, new]

/-- Offers an event: it is accepted if the worker still takes events and there is room. -/
def offer (q : AuditQueue) (e : AuditEvent) : Except AuditError Unit × AuditQueue :=
  if !q.isOpen then (.error .closed, q)
  else if q.capacity ≤ q.waiting.length then (.error .queueFull, q)
  else (.ok (), { q with waiting := q.waiting ++ [e] })

/-- The queue after its worker has been stopped: what waited is lost. -/
def abort (q : AuditQueue) : AuditQueue := { q with waiting := [], isOpen := false }

end AuditQueue

/-- What is wrong with a capacity, in words. -/
def ChannelError.message : ChannelError → String
  | .noRoom => "mpsc bounded channel requires buffer > 0"
  | .tooMuchRoom =>
    "a semaphore may not have more than MAX_PERMITS permits (" ++
      Decimal.showInt AuditQueue.maxCapacity.toNat ++ ")"

/-- The records that have been kept, and the failures that the next appends meet. -/
structure AuditRepository where
  records : List AuditRecord
  /-- For each append to come, the words of its failure if it is to fail. -/
  failures : List (Option String)
  deriving Repr, Inhabited

namespace AuditRepository

/-- Appends a record. -/
def append (r : AuditRepository) (record : AuditRecord) :
    Except AuditError Unit × AuditRepository :=
  let rest := { r with failures := r.failures.tail }
  match r.failures.head?.join with
  | some words => (.error (.repository words), rest)
  | none =>
    if isBlank record.workspaceId then (.error (.invalid "workspace_id required"), rest)
    else (.ok (), { rest with records := rest.records ++ [record] })

/-- The records of a workspace, oldest first. -/
def ofWorkspace (r : AuditRepository) (workspaceId : String) : List AuditRecord :=
  r.records.filter fun record => record.workspaceId = workspaceId

end AuditRepository

/-- A worker: its repository, the event that it has received and not yet appended, and the number of
records that have been given an identifier. -/
structure AuditWorker where
  repository : AuditRepository
  inHand : Option AuditEvent
  numbered : Nat
  deriving Repr

/-- A worker that has received nothing yet. -/
def AuditWorker.idle (repository : AuditRepository) : AuditWorker := ⟨repository, none, 0⟩

/-- A queue with its worker. -/
structure AuditLine where
  queue : AuditQueue
  worker : AuditWorker
  deriving Repr

namespace AuditLine

/-- A worker with free hands takes the event that has waited longest. -/
def receive (l : AuditLine) : AuditLine :=
  match l.worker.inHand, l.queue.waiting with
  | none, e :: waiting =>
    ⟨{ l.queue with waiting }, { l.worker with inHand := some e }⟩
  | _, _ => l

/-- The worker appends the record of the event in its hand. The log tells whether it was kept. -/
def append (ids : Nat → Uuid) (now : Instant) (l : AuditLine) : List LogEvent × AuditLine :=
  match l.worker.inHand with
  | none => ([], l)
  | some e =>
    let record := AuditRecord.ofEvent e (ids l.worker.numbered) now
    let (answer, repository) := l.worker.repository.append record
    let line :=
      match answer with
      | .ok () => LogEvent.recordPersisted record.id record.workspaceId
      | .error error => LogEvent.recordLost record.id record.workspaceId error
    ([line], { l with worker := ⟨repository, none, l.worker.numbered + 1⟩ })

/-- A number of turns, in each of which the worker receives an event and appends its record. -/
def turns (ids : Nat → Uuid) (now : Instant) : Nat → AuditLine → List LogEvent × AuditLine
  | 0, l => ([], l)
  | n + 1, l =>
    let (line, l) := l.receive.append ids now
    let (lines, l) := turns ids now n l
    (line ++ lines, l)

/-- The worker takes everything that waits. -/
def drain (ids : Nat → Uuid) (now : Instant) (l : AuditLine) : List LogEvent × AuditLine :=
  turns ids now l.queue.waiting.length l

end AuditLine

end CallExchange
