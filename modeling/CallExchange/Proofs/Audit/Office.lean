import CallExchange.Audit.Office

/-!
# What becomes of audit events

An event that a sink has accepted waits in the queue, is in the worker's hand, or has been tried.
Every move keeps the three together in the order of acceptance, so that in whatever order sinks and
worker take turns nothing is lost, doubled or overtaken. A try fails for reasons of its own, the
failure that the repository had ready for it or the record's missing workspace, and the worker goes
on to the next event.

## Main definitions

* `AuditRepository.verdict` — how a repository answers the append of a number
* `AuditOffice.Accounted` — where the accepted events are, and what has become of them
* `AuditOffice.Delivers` — what can be relied on at every moment

## Main results

* `accounted_step`, `accounted_run` — every move keeps account of the accepted events
* `exists_run_ended` — without sinks the worker comes to an end
* `delivers_of_run` — no loss, no duplication, no reordering
-/

namespace CallExchange

/-- How a repository answers the append of a number, counted from now on: by the failure that it has
ready for it, or by what the record is. -/
def AuditRepository.verdict (r : AuditRepository) (n : Nat) (record : AuditRecord) :
    Except AuditError Unit :=
  match r.failures[n]?.join with
  | some words => .error (.repository words)
  | none =>
    if Text.isBlank record.workspaceId then .error (.invalid "workspace_id required") else .ok ()

/-- An append uses up one failure, and keeps the record if it is answered well. -/
theorem AuditRepository.append_eq (r : AuditRepository) (record : AuditRecord) :
    r.append record =
      (r.verdict 0 record,
        ⟨r.records ++ if (r.verdict 0 record).isOk then [record] else [], r.failures.tail⟩) := by
  have head : r.failures[0]? = r.failures.head? := List.head?_eq_getElem?.symm
  simp only [append, verdict, head]
  cases r.failures.head?.join with
  | some words => simp [Except.isOk, Except.toBool]
  | none => by_cases blank : Text.isBlank record.workspaceId <;> simp [blank, Except.isOk, Except.toBool]

namespace AuditOffice

variable {ids : Nat → Uuid} {n : Nat} {repository : AuditRepository} {s t : AuditOffice}
  {sight : Sight} {sights : List Sight} {e : AuditEvent} {w : AuditWorker} {tried : List Try}
  {now : Instant}

/-! ### What the worker has done -/

/-- What a worker has tried since it had a repository, and what it has of it. -/
structure Worked (ids : Nat → Uuid) (repository : AuditRepository) (tried : List Try)
    (w : AuditWorker) : Prop where
  numbered : w.numbered = tried.length
  failures : w.repository.failures = repository.failures.drop tried.length
  records : w.repository.records =
    repository.records ++ (tried.filter (·.isKept)).map (·.record)
  /-- Whatever happened to other events, a try is for its own event, and is answered for reasons of
  its own. -/
  each : ∀ {i : Nat} {a : Try}, tried[i]? = some a →
    (∃ now, a.record = AuditRecord.ofEvent a.event (ids i) now) ∧
      a.answer = repository.verdict i a.record

/-- The hand of a worker may hold anything. -/
theorem Worked.withHand (worked : Worked ids repository tried w) (hand : Option AuditEvent) :
    Worked ids repository tried { w with inHand := hand } :=
  ⟨worked.numbered, worked.failures, worked.records, worked.each⟩

/-- A try comes after those before it, with its own number and its own failure. -/
theorem Worked.attempt (worked : Worked ids repository tried w) :
    Worked ids repository (tried ++ [attempt ids now w e])
      ⟨(w.repository.append (AuditRecord.ofEvent e (ids w.numbered) now)).2, none,
        w.numbered + 1⟩ := by
  obtain ⟨numbered, failures, records, each⟩ := worked
  -- the failures that are left begin with the one for this try
  have verdict (record : AuditRecord) :
      w.repository.verdict 0 record = repository.verdict tried.length record := by
    simp [AuditRepository.verdict, failures]
  generalize same : AuditOffice.attempt ids now w e = a
  have record : a.record = AuditRecord.ofEvent a.event (ids tried.length) now := by
    rw [← same, ← numbered]
    rfl
  have answer : a.answer = w.repository.verdict 0 a.record := by
    rw [← same, AuditOffice.attempt, AuditRepository.append_eq]
  have kept : ([a].filter (·.isKept)).map (·.record) = if a.answer.isOk then [a.record] else [] := by
    by_cases taken : a.answer.isOk <;> simp [Try.isKept, taken]
  have appended : w.repository.append (AuditRecord.ofEvent e (ids w.numbered) now) =
      w.repository.append a.record := by
    rw [← same]
    rfl
  rw [appended, AuditRepository.append_eq, ← answer]
  refine ⟨?_, ?_, ?_, ?_⟩
  · rw [numbered, List.length_append, List.length_singleton]
  · rw [failures, List.tail_drop, List.length_append, List.length_singleton]
  · rw [records, List.filter_append, List.map_append, List.append_assoc, kept]
  · intro i b found
    rcases Nat.lt_or_ge i tried.length with earlier | later
    · rw [List.getElem?_append_left earlier] at found
      exact each found
    · rw [List.getElem?_append_right later, List.getElem?_singleton] at found
      obtain ⟨place, ⟨⟩⟩ := Option.ite_none_right_eq_some.mp found
      obtain rfl : i = tried.length := by omega
      exact ⟨⟨now, record⟩, answer.trans (verdict a.record)⟩

/-! ### Where the accepted events are -/

/-- The accepted events with what has become of them: those that were tried, the one in the worker's
hand and those that wait are all of them, in the order in which they were accepted. -/
structure Accounted (ids : Nat → Uuid) (n : Nat) (repository : AuditRepository)
    (sights : List Sight) (s : AuditOffice) : Prop where
  capacity : s.line.queue.capacity = max n 1
  bounded : s.line.queue.waiting.length ≤ max n 1
  isOpen : s.line.queue.isOpen = !s.ended
  order : (tries sights).map (·.event) ++ (s.line.worker.inHand.toList ++ s.line.queue.waiting) =
    accepted sights
  worked : Worked ids repository (tries sights) s.line.worker
  /-- The worker has ended for want of anything to do. -/
  idle : s.ended = true →
    s.sinks = 0 ∧ s.line.worker.inHand = none ∧ s.line.queue.waiting = []

theorem accounted_start : Accounted ids n repository [] (start n repository) where
  capacity := rfl
  bounded := Nat.zero_le _
  isOpen := rfl
  order := rfl
  worked := ⟨rfl, rfl, (List.append_nil _).symm, fun found => by cases found⟩
  idle ended := by cases ended

@[simp] theorem tries_concat : tries (sights ++ [sight]) = tries sights ++ sight.tried?.toList := by
  rw [tries, List.filterMap_append, ← tries]
  cases sight <;> rfl

@[simp] theorem accepted_concat :
    accepted (sights ++ [sight]) = accepted sights ++ sight.accepted?.toList := by
  rw [accepted, List.filterMap_append, ← accepted]
  rcases sight with - | ⟨e, - | -⟩ | - | - <;> rfl

/-- What a queue that is open answers to an offer, and what it is afterwards. -/
theorem offer_of_open {q : AuditQueue} (isOpen : q.isOpen = true) :
    q.offer e =
      if q.waiting.length < q.capacity then (.ok (), { q with waiting := q.waiting ++ [e] })
      else (.error .queueFull, q) := by
  by_cases room : q.waiting.length < q.capacity
  · simp [AuditQueue.offer, isOpen, room]
  · simp [AuditQueue.offer, isOpen, room, Nat.le_of_not_lt room]

/-- A sink that is in use finds the queue open: the worker has not ended. -/
theorem Accounted.running (accounted : Accounted ids n repository sights s)
    (inUse : 0 < s.sinks) : s.ended = false := by
  cases ended : s.ended with
  | false => rfl
  | true => exact absurd (accounted.idle ended).1 (Nat.ne_of_gt inUse)

/-- What a sink that is in use is answered. -/
theorem Accounted.offer (accounted : Accounted ids n repository sights s) (inUse : 0 < s.sinks) :
    s.line.queue.offer e =
      if s.line.queue.waiting.length < max n 1 then
        (.ok (), { s.line.queue with waiting := s.line.queue.waiting ++ [e] })
      else (.error .queueFull, s.line.queue) := by
  have isOpen : s.line.queue.isOpen = true := by
    rw [accounted.isOpen, accounted.running inUse, Bool.not_false]
  simp only [offer_of_open isOpen, accounted.capacity]

/-! ### Every move keeps account -/

/-- The worker, which has not ended, has not ended either after the move. -/
theorem idle_of_running (runs : s.ended = false) {p : Prop} (ended : s.ended = true) : p :=
  absurd (runs.symm.trans ended) Bool.false_ne_true

/-- An offer is accepted at the end of those that wait, or nothing happens. -/
theorem Accounted.record (accounted : Accounted ids n repository sights s) (inUse : 0 < s.sinks) :
    Accounted ids n repository (sights ++ [.answered e (s.line.queue.offer e).1])
      { s with line := { s.line with queue := (s.line.queue.offer e).2 } } := by
  have runs := accounted.running inUse
  rw [accounted.offer inUse]
  obtain ⟨capacity, bounded, isOpen, order, worked, -⟩ := accounted
  by_cases room : s.line.queue.waiting.length < max n 1
  · rw [if_pos room]
    refine ⟨capacity, ?_, isOpen, ?_, ?_, idle_of_running runs⟩
    · rw [List.length_append]
      exact room
    · simp [Sight.tried?, Sight.accepted?, ← order]
    · simpa [Sight.tried?] using worked
  · rw [if_neg room]
    refine ⟨capacity, bounded, isOpen, ?_, ?_, idle_of_running runs⟩
    · simpa [Sight.tried?, Sight.accepted?] using order
    · simpa [Sight.tried?] using worked

/-- The event that has waited longest passes from the queue into the worker's hand. -/
theorem Accounted.receive (accounted : Accounted ids n repository sights s)
    (runs : s.ended = false) (free : s.line.worker.inHand = none)
    (waits : s.line.queue.waiting ≠ []) :
    Accounted ids n repository (sights ++ [.nothing]) { s with line := s.line.receive } := by
  obtain ⟨e, rest, waiting⟩ := List.exists_cons_of_ne_nil waits
  have received : s.line.receive =
      ⟨{ s.line.queue with waiting := rest }, { s.line.worker with inHand := some e }⟩ := by
    simp only [AuditLine.receive, free, waiting]
  rw [received]
  obtain ⟨capacity, bounded, isOpen, order, worked, -⟩ := accounted
  refine ⟨capacity, ?_, isOpen, ?_, ?_, idle_of_running runs⟩
  · rw [waiting] at bounded
    exact Nat.le_of_succ_le bounded
  · simpa [free, waiting, Sight.tried?, Sight.accepted?] using order
  · simpa [Sight.tried?] using worked.withHand (some e)

/-- The event in the worker's hand is tried, and its hands are free. -/
theorem Accounted.append (accounted : Accounted ids n repository sights s)
    (runs : s.ended = false) (busy : s.line.worker.inHand = some e) (now : Instant) :
    Accounted ids n repository (sights ++ [.tried (attempt ids now s.line.worker e)])
      { s with line := (s.line.append ids now).2 } := by
  have appended : (s.line.append ids now).2 =
      { s.line with worker :=
        ⟨(s.line.worker.repository.append (AuditRecord.ofEvent e (ids s.line.worker.numbered)
          now)).2, none, s.line.worker.numbered + 1⟩ } := by
    simp only [AuditLine.append, busy]
  rw [appended]
  obtain ⟨capacity, bounded, isOpen, order, worked, -⟩ := accounted
  refine ⟨capacity, bounded, isOpen, ?_, ?_, idle_of_running runs⟩
  · simpa [busy, Sight.tried?, Sight.accepted?, attempt] using order
  · simpa [Sight.tried?] using worked.attempt

/-- Every move keeps account of the accepted events. -/
theorem accounted_step (accounted : Accounted ids n repository sights s)
    (step : Step ids s sight t) : Accounted ids n repository (sights ++ [sight]) t := by
  cases step with
  | record inUse e => exact accounted.record inUse
  | receive runs free waits => exact accounted.receive runs free waits
  | append runs busy now => exact accounted.append runs busy now
  | clone inUse | drop inUse =>
    have runs := accounted.running inUse
    obtain ⟨capacity, bounded, isOpen, order, worked, -⟩ := accounted
    refine ⟨capacity, bounded, isOpen, ?_, ?_, idle_of_running runs⟩
    · simpa [Sight.tried?, Sight.accepted?] using order
    · simpa [Sight.tried?] using worked
  | finish runs free empty unused =>
    obtain ⟨capacity, -, -, order, worked, -⟩ := accounted
    refine ⟨capacity, Nat.zero_le _, rfl, ?_, ?_, fun _ => ⟨unused, free, rfl⟩⟩
    · simpa [Sight.tried?, Sight.accepted?, AuditQueue.abort, empty] using order
    · simpa [Sight.tried?] using worked

theorem accounted_run (run : Run ids (start n repository) sights s) :
    Accounted ids n repository sights s := by
  induction run with
  | nil => exact accounted_start
  | snoc _ step ih => exact accounted_step ih step

/-! ### The worker alone -/

theorem Run.trans {more : List Sight} {u : AuditOffice} (run : Run ids s sights t)
    (later : Run ids t more u) : Run ids s (sights ++ more) u := by
  induction later with
  | nil => rwa [List.append_nil]
  | snoc _ step ih =>
    rw [← List.append_assoc]
    exact ih.snoc step

/-- In a turn the event that has waited longest is tried, and the worker's hands are free again. -/
theorem turn_of_waiting (ids : Nat → Uuid) (now : Instant) {l : AuditLine}
    {rest : List AuditEvent} (free : l.worker.inHand = none)
    (waiting : l.queue.waiting = e :: rest) :
    (l.receive.append ids now).2 =
      ⟨{ l.queue with waiting := rest },
        ⟨(l.worker.repository.append (AuditRecord.ofEvent e (ids l.worker.numbered) now)).2, none,
          l.worker.numbered + 1⟩⟩ := by
  simp only [AuditLine.receive, AuditLine.append, free, waiting]

/-- A worker that drains its queue makes moves of its own, and afterwards there is nothing left to
do. -/
theorem exists_run_drain (ids : Nat → Uuid) (runs : s.ended = false) (free : s.line.worker.inHand = none)
    (now : Instant) :
    ∃ sights, Run ids s sights { s with line := (s.line.drain ids now).2 } ∧
      accepted sights = [] ∧ (s.line.drain ids now).2.worker.inHand = none ∧
      (s.line.drain ids now).2.queue.waiting = [] := by
  unfold AuditLine.drain
  generalize waiting : s.line.queue.waiting = events
  induction events generalizing s with
  | nil => exact ⟨[], .nil, rfl, free, waiting⟩
  | cons e rest ih =>
    have turn := turn_of_waiting ids now free waiting
    -- one turn takes two moves, and the rest is for a shorter queue
    have received : Step ids s .nothing { s with line := s.line.receive } :=
      .receive runs free (by rw [waiting]; exact List.cons_ne_nil e rest)
    have busy : s.line.receive.worker.inHand = some e := by
      simp only [AuditLine.receive, free, waiting]
    have appended : Step ids _ _ _ :=
      .append (s := { s with line := s.line.receive }) runs busy now
    obtain ⟨sights, later, silent, idle, empty⟩ :=
      ih (s := { s with line := (s.line.receive.append ids now).2 }) runs (by rw [turn])
        (by rw [turn])
    exact ⟨_, ((Run.nil.snoc received).snoc appended).trans later, silent, idle, empty⟩

/-- Whatever has happened, the worker can go on by itself until all events have been tried, and come
to its end if no sink is in use. -/
theorem exists_run_settled (ids : Nat → Uuid) (s : AuditOffice) (runs : s.ended = false) :
    ∃ sights t, Run ids s sights t ∧ accepted sights = [] ∧ t.sinks = s.sinks ∧
      t.line.worker.inHand = none ∧ t.line.queue.waiting = [] ∧ (s.sinks = 0 → t.ended = true) := by
  -- first the event that is in the worker's hand
  obtain ⟨first, u, tried, accepted₁, same, running, free⟩ :
      ∃ sights u, Run ids s sights u ∧ accepted sights = [] ∧ u.sinks = s.sinks ∧
        u.ended = false ∧ u.line.worker.inHand = none := by
    cases busy : s.line.worker.inHand with
    | none => exact ⟨[], s, .nil, rfl, rfl, runs, busy⟩
    | some e =>
      refine ⟨_, _, Run.nil.snoc (.append runs busy .start), rfl, rfl, runs, ?_⟩
      simp only [AuditLine.append, busy]
  obtain ⟨second, drained, accepted₂, idle, empty⟩ := exists_run_drain ids running free .start
  have silent : accepted (first ++ second) = [] := by
    rw [accepted, List.filterMap_append, ← accepted, ← accepted, accepted₁, accepted₂,
      List.append_nil]
  by_cases unused : s.sinks = 0
  · refine ⟨_, _, (tried.trans drained).snoc (.finish running idle empty (same.trans unused)), ?_,
      same, idle, rfl, fun _ => rfl⟩
    rw [accepted_concat, silent]
    rfl
  · exact ⟨_, _, tried.trans drained, silent, same, idle, empty, fun none => (unused none).elim⟩

/-! ### What can be relied on -/

/-- The workspace of a record is that of its event. -/
theorem workspaceId_ofEvent (e : AuditEvent) (id : Uuid) (now : Instant) :
    (AuditRecord.ofEvent e id now).workspaceId = e.workspaceId := by
  cases e <;> rfl

/-- What can be relied on at every moment, in whatever order sinks and worker have moved. -/
structure Delivers (ids : Nat → Uuid) (n : Nat) (repository : AuditRepository)
    (sights : List Sight) (s : AuditOffice) : Prop where
  bounded : s.line.queue.waiting.length ≤ max n 1
  /-- An offer is refused exactly when the queue is full, and then it has changed nothing. -/
  refused : ∀ {e : AuditEvent} {answer : Except AuditError Unit} {t : AuditOffice},
    Step ids s (.answered e answer) t →
      (answer = .error .queueFull ↔ s.line.queue.waiting.length = max n 1) ∧
        (answer ≠ .ok () → answer = .error .queueFull ∧ t = s)
  /-- The worker tries the accepted events one by one, in the order of acceptance. -/
  order : (tries sights).map (·.event) ++ (s.line.worker.inHand.toList ++ s.line.queue.waiting) =
    accepted sights
  /-- A try is answered for reasons of its own. -/
  tried : ∀ {i : Nat} {a : Try}, (tries sights)[i]? = some a →
    (∃ now, a.record = AuditRecord.ofEvent a.event (ids i) now) ∧
      a.answer = repository.verdict i a.record
  /-- Nothing stops the worker: alone, it goes on to try all that has been accepted, and ends if no
  sink is in use. -/
  goesOn : ∃ more t, Run ids s more t ∧ accepted more = [] ∧ t.sinks = s.sinks ∧
    (tries (sights ++ more)).map (·.event) = accepted sights ∧ (s.sinks = 0 → t.ended = true)
  /-- The worker ends only when no sink is in use and every accepted event has been tried. -/
  settled : s.ended = true → s.sinks = 0 ∧ (tries sights).map (·.event) = accepted sights
  /-- The repository has the records of the tries that have succeeded. -/
  records : s.line.worker.repository.records =
    repository.records ++ ((tries sights).filter (·.isKept)).map (·.record)
  /-- To a workspace it shows those of its own events. -/
  ofWorkspace : ∀ workspaceId, s.line.worker.repository.ofWorkspace workspaceId =
    repository.ofWorkspace workspaceId ++
      (((tries sights).filter (·.isKept)).filter
        fun a => a.event.workspaceId = workspaceId).map (·.record)

/-- No event that a sink has accepted is lost, tried twice or overtaken, whatever the capacity, the
order of the moves and the failures of the repository. -/
theorem delivers_of_run (run : Run ids (start n repository) sights s) :
    Delivers ids n repository sights s := by
  have accounted := accounted_run run
  obtain ⟨-, bounded, -, order, worked, idle⟩ := accounted_run run
  refine ⟨bounded, ?_, order, worked.each, ?_, fun ended => ?_, worked.records,
    fun workspaceId => ?_⟩
  · intro e answer t step
    cases step with
    | record inUse =>
      rw [accounted.offer inUse]
      by_cases room : s.line.queue.waiting.length < max n 1
      · simp [room, Nat.ne_of_lt room]
      · have full := Nat.le_antisymm bounded (Nat.le_of_not_lt room)
        simp [full]
  · cases ended : s.ended with
    | true =>
      obtain ⟨-, free, empty⟩ := idle ended
      refine ⟨[], s, .nil, rfl, rfl, ?_, fun _ => ended⟩
      simpa [free, empty] using order
    | false =>
      obtain ⟨more, t, later, silent, same, free, empty, ends⟩ :=
        exists_run_settled ids s ended
      refine ⟨more, t, later, silent, same, ?_, ends⟩
      have atEnd := (accounted_run (run.trans later)).order
      rw [free, empty, accepted, List.filterMap_append, ← accepted, ← accepted, silent] at atEnd
      simpa using atEnd
  · obtain ⟨unused, free, empty⟩ := idle ended
    refine ⟨unused, ?_⟩
    simpa [free, empty] using order
  · have own : ∀ a ∈ (tries sights).filter (·.isKept), decide (a.record.workspaceId = workspaceId) =
        decide (a.event.workspaceId = workspaceId) := by
      intro a mem
      obtain ⟨i, found⟩ := List.mem_iff_getElem?.mp (List.mem_filter.mp mem).1
      obtain ⟨⟨now, record⟩, -⟩ := worked.each found
      rw [record, workspaceId_ofEvent]
    simp only [AuditRepository.ofWorkspace, worked.records, List.filter_append, List.filter_map,
      Function.comp_def]
    rw [List.filter_congr own]

/-- An event of a workspace. -/
def sampleEvent (workspaceId reason : String) : AuditEvent :=
  .adminAction { (default : AdminActionEvent) with workspaceId, reason }

/-- A repository that is down for the first append. -/
def sampleRepository : AuditRepository := ⟨[], [some "down"]⟩

/-- Through a queue for one event, a clone and the first sink offer four events. One is refused, the
append of another one fails, and the records of the other two are kept. -/
theorem delivers_of_sampleRun :
    ∃ sights s, Run (fun _ => .nil) (start 0 sampleRepository) sights s ∧ s.ended = true ∧
      Delivers (fun _ => .nil) 0 sampleRepository sights s ∧
      accepted sights =
        [sampleEvent "acme" "first", sampleEvent "acme" "third", sampleEvent "zoo" "fourth"] ∧
      s.line.worker.repository.records.map (·.message) = ["third", "fourth"] := by
  have first : Run (fun _ => .nil) (start 0 sampleRepository) [] _ := .nil
  have offered := first.snoc (.record (by decide) (sampleEvent "acme" "first"))
  have refused := offered.snoc (.record (by decide) (sampleEvent "acme" "second"))
  have cloned := (refused.snoc (.receive rfl rfl (List.cons_ne_nil _ _))).snoc (.clone (by decide))
  have again := cloned.snoc (.record (by decide) (sampleEvent "acme" "third"))
  have failed := (again.snoc (.append rfl rfl .start)).snoc (.receive rfl rfl (List.cons_ne_nil _ _))
  have dropped := (failed.snoc (.record (by decide) (sampleEvent "zoo" "fourth"))).snoc
    (.drop (by decide))
  have kept := (dropped.snoc (.append rfl rfl .start)).snoc (.drop (by decide))
  have last := (kept.snoc (.receive rfl rfl (List.cons_ne_nil _ _))).snoc (.append rfl rfl .start)
  have run := last.snoc (.finish rfl rfl rfl rfl)
  exact ⟨_, _, run, rfl, delivers_of_run run, rfl, rfl⟩

end AuditOffice

end CallExchange
