import CallExchange.Audit.Queue
import CallExchange.Proofs.Settings.Agreement

/-!
# Settings that are accepted but cannot be started

A worker starts with a queue of the capacity that the settings name. A queue needs room, and it
cannot have too much of it. Validation looks at the first alone, and so does the worker, which
raises a capacity of zero to one. So settings beyond the limit are accepted, and the worker does not
start.

## Main definitions

* `AuditQueue.Bounded` — which queues can be created
* `Settings.InFile`, `Settings.InEnvironment`, `Settings.Accepted` — settings that are accepted

## Main results

* `inFile_iff`, `inEnvironment_iff` — valid settings, and no others, are accepted
* `starts_iff` — the worker starts within the limit, and settings beyond it are accepted
-/

namespace CallExchange

/-! ### Queues -/

namespace AuditQueue

variable {ε : Type} {create : UInt64 → Except ε AuditQueue} {capacity : UInt64}

/-- Queues can be created up to the limit, if they have room. -/
def Bounded (create : UInt64 → Except ε AuditQueue) : Prop :=
  ∀ capacity, (∃ q, create capacity = .ok q) ↔ 0 < capacity ∧ capacity ≤ maxCapacity

theorem bounded_channel : Bounded channel := by
  intro capacity
  rw [channel, UInt64.pos_iff_ne_zero, ← UInt64.not_lt]
  by_cases empty : capacity = 0
  · simp [empty]
  · by_cases excessive : maxCapacity < capacity <;> simp [empty, excessive]

/-- A worker starts with the capacity that it is given, if there is any. -/
theorem spawn_of_pos (positive : 0 < capacity) : spawn create capacity = create capacity := by
  have raised : max capacity 1 = capacity := by
    rw [← UInt64.toNat_inj, toNat_max_one]
    exact Nat.max_eq_left (UInt64.lt_iff_toNat_lt.mp positive)
  rw [spawn, raised]

end AuditQueue

/-! ### Accepted settings -/

namespace Settings

open AuditQueue

variable {s : Settings}

/-- Settings that a file holds. -/
def InFile (s : Settings) : Prop := ∃ path contents, load path contents = .ok s

/-- Settings that an environment names. -/
def InEnvironment (s : Settings) : Prop := ∃ env, ofEnvironment env = .ok s

/-- Settings that are accepted, from wherever they come. -/
def Accepted (s : Settings) : Prop := s.InFile ∨ s.InEnvironment

theorem valid_of_validated {t : Settings} (validated : t.validated = .ok s) : s.Valid := by
  obtain ⟨rfl, valid⟩ := validated_eq_ok_iff.mp validated
  exact valid

theorem inFile_iff : s.InFile ↔ s.Valid := by
  constructor
  · rintro ⟨path, contents, loaded⟩
    -- each stage before validation either fails or hands on what it has read
    unfold load at loaded
    split at loaded
    · cases loaded
    split at loaded
    · cases loaded
    split at loaded
    · cases loaded
    exact valid_of_validated loaded
  · intro valid
    obtain ⟨text, written⟩ := s.exists_writtenIn
    exact ⟨"", some text.toUTF8,
      (load_of_writtenIn written).trans (validated_eq_ok_iff.mpr ⟨rfl, valid⟩)⟩

theorem inEnvironment_iff : s.InEnvironment ↔ s.Valid := by
  constructor
  · rintro ⟨env, named⟩
    unfold ofEnvironment at named
    simp only [bind, Except.bind] at named
    split at named
    · cases named
    split at named
    · cases named
    exact valid_of_validated named
  · intro valid
    obtain ⟨l, written⟩ := valid.2
    exact ⟨s.environment, (ofEnvironment_environment written.ne_empty).trans
      (validated_eq_ok_iff.mpr ⟨rfl, valid⟩)⟩

/-- Settings are accepted exactly if they are valid. -/
theorem accepted_iff : s.Accepted ↔ s.Valid := by
  rw [Accepted, inFile_iff, inEnvironment_iff, or_self]

/-- Whatever creates the queues, the worker asks for the capacity of the accepted settings and
starts exactly if that is within the limit. Every capacity beyond the limit is accepted, from a file
and from the environment. -/
theorem starts_iff {ε : Type} {create : UInt64 → Except ε AuditQueue} (bounded : Bounded create) :
    (∀ s : Settings, s.Accepted →
      spawn create s.queueCapacity = create s.queueCapacity ∧
      ((∃ q, spawn create s.queueCapacity = .ok q) ↔ s.queueCapacity ≤ maxCapacity)) ∧
    ∀ capacity, maxCapacity < capacity →
      ∃ s : Settings, s.InFile ∧ s.InEnvironment ∧ s.queueCapacity = capacity := by
  constructor
  · intro s accepted
    have positive := (accepted_iff.mp accepted).1
    rw [spawn_of_pos positive, bounded]
    exact ⟨rfl, and_iff_right positive⟩
  · intro capacity excessive
    have level : LogLevel.info.WrittenIn "info" :=
      ⟨[], "info".toList, [], nofun, nofun, .name (by decide), rfl⟩
    have valid : Valid ⟨"info", capacity, none⟩ :=
      ⟨UInt64.lt_of_le_of_lt (by decide) excessive, .info, level⟩
    exact ⟨_, inFile_iff.mpr valid, inEnvironment_iff.mpr valid, rfl⟩

/-- At the limit the worker starts with an empty queue. -/
theorem starts_iff_at_maxCapacity :
    Bounded channel ∧ Accepted ⟨"info", 2305843009213693951, none⟩ ∧
      ∃ q, spawn channel 2305843009213693951 = .ok q ∧ q = .new 2305843009213693951 := by
  have accepted : Accepted ⟨"info", 2305843009213693951, none⟩ :=
    .inr ⟨⟨none, some "2305843009213693951", none⟩, by decide +kernel⟩
  have within : (2305843009213693951 : UInt64) ≤ maxCapacity := by decide
  obtain ⟨q, started⟩ := ((starts_iff bounded_channel).1 _ accepted).2.mpr within
  have empty : q = .new 2305843009213693951 :=
    Except.ok.inj (started.symm.trans (spawn_channel_of_le within))
  exact ⟨bounded_channel, accepted, q, started, empty⟩

/-- A capacity that is one too great, and nothing else. -/
def excessiveText : String :=
  "\x7b\"audit\":\x7b\"queue_capacity\":2305843009213693952\x7d\x7d"

/-- The settings that the text says. -/
def excessive : Settings := ⟨"info", 2305843009213693952, none⟩

theorem unstartable_of_excessiveText :
    load "settings.json" (some excessiveText.toUTF8) = .ok excessive ∧
      ofEnvironment ⟨none, some "2305843009213693952", none⟩ = .ok excessive ∧
      Bounded channel ∧ ¬∃ q, spawn channel excessive.queueCapacity = .ok q := by
  have loaded : load "settings.json" (some excessiveText.toUTF8) = .ok excessive := by
    decide +kernel
  have named : ofEnvironment ⟨none, some "2305843009213693952", none⟩ = .ok excessive := by
    decide +kernel
  have refused : spawn channel excessive.queueCapacity = .error .tooMuchRoom := rfl
  refine ⟨loaded, named, bounded_channel, ?_⟩
  rintro ⟨q, started⟩
  rw [refused] at started
  cases started

end Settings

end CallExchange
