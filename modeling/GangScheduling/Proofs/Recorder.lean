import GangScheduling.Recorder
import Mathlib.Data.List.DropRight

set_option autoImplicit false

namespace GangScheduling

theorem rtake_rtake_append {A : Type} (n : Nat) (first second : List A) :
    (first.rtake n ++ second).rtake n = (first ++ second).rtake n := by
  have later : first.rtake n ++ second = (first ++ second).drop (first.length - n) :=
    (List.drop_append_of_le_length (Nat.sub_le _ _)).symm
  have place : first.length - n + ((first ++ second).length - (first.length - n) - n) =
      (first ++ second).length - n := by
    rw [List.length_append]
    omega
  rw [later, List.rtake, List.length_drop, List.drop_drop, place, List.rtake]

theorem length_rtake {A : Type} (n : Nat) (list : List A) :
    (list.rtake n).length = min n list.length := by
  rw [List.rtake, List.length_drop]
  omega

namespace EventMemory

variable {memory : EventMemory}

@[simp] theorem capacity_record (event : PodEvent) :
    (memory.record event).capacity = memory.capacity := by
  unfold record
  split
  next => rfl
  next => split <;> rfl

theorem events_record (bounded : memory.events.length ≤ memory.capacity) (event : PodEvent) :
    (memory.record event).events = (memory.events ++ [event]).rtake memory.capacity := by
  have more : (memory.events ++ [event]).length = memory.events.length + 1 := List.length_append
  unfold record
  split
  next nothing =>
    have empty : memory.events = [] := List.length_eq_zero_iff.mp (by omega)
    rw [nothing, List.rtake_zero, empty]
  next something =>
    split
    next full =>
      -- The oldest event is the only one too many.
      have excess : (memory.events ++ [event]).length - memory.capacity = 1 := by omega
      have oldest : 1 ≤ memory.events.length := by omega
      rw [List.rtake, excess, List.drop_append_of_le_length oldest]
    next room =>
      have fits : (memory.events ++ [event]).length - memory.capacity = 0 := by omega
      rw [List.rtake, fits, List.drop_zero]

theorem bounded_record (bounded : memory.events.length ≤ memory.capacity) (event : PodEvent) :
    (memory.record event).events.length ≤ (memory.record event).capacity := by
  rw [events_record bounded, capacity_record, length_rtake]
  exact Nat.min_le_left _ _

theorem events_recordAll (bounded : memory.events.length ≤ memory.capacity)
    (events : List PodEvent) :
    (memory.recordAll events).events = (memory.events ++ events).rtake memory.capacity := by
  induction events generalizing memory with
  | nil =>
    have whole : memory.events.length - memory.capacity = 0 := by omega
    simp [recordAll, List.rtake, whole]
  | cons event rest ih =>
    have later := ih (bounded_record bounded event)
    rw [events_record bounded, capacity_record, rtake_rtake_append] at later
    simpa [recordAll] using later

end EventMemory

namespace Recorder

theorem recordAll_append (recorder : Recorder) (events more : List PodEvent) :
    (recorder.recordAll (events ++ more)).1 =
      ((recorder.recordAll events).1.recordAll more).1 := by
  induction events generalizing recorder with
  | nil => rfl
  | cons event rest ih => exact ih (recorder.record event).1

theorem record_recordAll (recorder : Recorder) (events : List PodEvent) (event : PodEvent) :
    ((recorder.recordAll events).1.record event).2 = (recorder.record event).2 := by
  -- A recorder stays what it is, a memory or the log.
  induction events generalizing recorder with
  | nil => rfl
  | cons first rest ih =>
    have next : ((recorder.record first).1.record event).2 = (recorder.record event).2 := by
      cases recorder <;> rfl
    exact (ih (recorder.record first).1).trans next

theorem recordAll_memory (memory : EventMemory) (events : List PodEvent) :
    (Recorder.memory memory).recordAll events = (.memory (memory.recordAll events), []) := by
  induction events generalizing memory with
  | nil => rfl
  | cons event rest ih => simp [recordAll, record, ih, EventMemory.recordAll]

/-- Of what is recorded, the newest events up to the capacity can be read, in the order in which
they came, and nothing is logged. -/
theorem newest_recorded (capacity : Nat) (history : List PodEvent) :
    ∃ recorder, (Recorder.memory { capacity }).recordAll history = (recorder, []) ∧
      recorder.events = history.rtake capacity ∧
      recorder.events.length = min capacity history.length ∧
      ∀ reason, recorder.withReason reason =
        (history.rtake capacity).filter fun event => event.reason = reason := by
  have empty : (EventMemory.mk capacity []).events.length ≤ capacity := Nat.zero_le capacity
  have kept := EventMemory.events_recordAll empty history
  rw [List.nil_append] at kept
  refine ⟨_, recordAll_memory { capacity } history, kept, ?_, ?_⟩
  next => rw [Recorder.events, kept, length_rtake]
  next =>
    intro reason
    rw [withReason, Recorder.events, kept]

end Recorder

end GangScheduling
