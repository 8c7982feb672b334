import GangScheduling.Application.Schedule
import GangScheduling.Proofs.Application.Handle
import Mathlib.Data.List.Nodup

set_option autoImplicit false

namespace GangScheduling

namespace Application

inductive Sends (app : Application) : Effect → Prop
  | further (accepted : app.state = .accepted) :
      Sends app (.dispatch (.application app.afterAccepted))
  | start (task : Task) (eligible : task ∈ app.eligible) (id : String) (same : task.id = id) :
      Sends app (.dispatch (.task { application := app.id, task := id }))
  | record (event : PodEvent) : Sends app (.record event)

variable {app : Application}

theorem schedule_new (fresh : app.state = .new) :
    app.handle (.submit app.id) = .ok app.schedule := by
  have legal : app.canHandle (ApplicationEvent.submit app.id).kind = true := by
    simp only [canHandle, fresh, ApplicationEvent.submit]
    decide
  obtain ⟨after, effects, handled⟩ := handle_of_canHandle legal
  simp [schedule, fresh, handled]

theorem sends_of_start {effect : Effect} (member : effect ∈ app.eligible.map app.start) :
    Sends app effect := by
  obtain ⟨task, eligible, rfl⟩ := List.mem_map.mp member
  unfold start
  split
  next => exact .start task eligible task.id rfl
  next => exact .record _

theorem schedule_not_new (moved : app.state ≠ .new) :
    app.schedule.1 = app ∧ ∀ effect ∈ app.schedule.2, Sends app effect := by
  unfold schedule
  split
  next fresh => exact absurd fresh moved
  next accepted =>
    refine ⟨rfl, ?_⟩
    intro effect member
    cases List.mem_singleton.mp member
    exact .further accepted
  next => exact ⟨rfl, fun effect member => sends_of_start member⟩
  next => exact ⟨rfl, fun effect member => sends_of_start member⟩
  next => exact ⟨rfl, fun effect member => nomatch member⟩

theorem mem_eligible {task : Task} :
    task ∈ app.eligible ↔
      task ∈ app.tasks.toList ∧ task.state = .new ∧
        Gang.maySchedule app.state task.placeholder = true := by
  simp [eligible, TaskSet.oldestFirst, TaskSet.inState, and_assoc]

theorem running_of_start {task : Task} (moved : app.state ≠ .new)
    (present : task ∈ app.tasks.toList) (own : task.placeholder = false)
    (sent : .dispatch (.task { application := app.id, task := task.id }) ∈ app.schedule.2) :
    app.state = .running := by
  cases (schedule_not_new moved).2 _ sent with
  | start started eligible _ same =>
    obtain ⟨member, -, allowed⟩ := mem_eligible.mp eligible
    rw [List.inj_on_of_nodup_map app.tasks.distinct member present same, own] at allowed
    cases state : app.state <;> simp [state, Gang.maySchedule] at allowed ⊢

theorem kind_afterAccepted_run (sent : app.afterAccepted.kind = .run) :
    app.groups = [] ∨ ∃ task ∈ app.tasks.toList, task.state = .allocated := by
  simp only [afterAccepted] at sent
  split at sent
  next => cases sent
  next skipped =>
    cases groups : app.groups with
    | nil => exact .inl rfl
    | cons group rest =>
      right
      have some : (app.tasks.inState .allocated).length ≠ 0 := by
        simpa [Gang.shouldReserve, groups] using skipped
      obtain ⟨task, member⟩ := List.exists_mem_of_length_pos (Nat.pos_of_ne_zero some)
      obtain ⟨present, allocated⟩ := List.mem_filter.mp member
      exact ⟨task, present, of_decide_eq_true allocated⟩

theorem schedule_accepted (accepted : app.state = .accepted) :
    app.schedule = (app, [.dispatch (.application app.afterAccepted)]) := by
  simp [schedule, accepted]

theorem kind_afterAccepted_tryReserve (gang : app.groups ≠ [])
    (unallocated : ∀ task ∈ app.tasks.toList, task.state ≠ .allocated) :
    app.afterAccepted.kind = .tryReserve := by
  have none : app.tasks.inState .allocated = [] := by
    simpa [TaskSet.inState] using unallocated
  simp [afterAccepted, Gang.shouldReserve, none, gang]

/-- There is a gang to wait for, and no task is allocated. A task that has gone on from there, to a
node of its own, does not count. -/
def MustReserve (app : Application) : Prop :=
  app.groups ≠ [] ∧ ∀ task ∈ app.tasks.toList, task.state ≠ .allocated

instance (app : Application) : Decidable app.MustReserve :=
  inferInstanceAs (Decidable (_ ∧ _))

theorem kind_afterAccepted (app : Application) :
    app.afterAccepted.kind = if app.MustReserve then .tryReserve else .run := by
  split
  next must => exact kind_afterAccepted_tryReserve must.1 must.2
  next skips =>
    have spared : Gang.shouldReserve app.groups (app.tasks.inState .allocated).length = false := by
      by_contra reserve
      refine skips ⟨?_, ?_⟩
      next =>
        intro none
        simp [Gang.shouldReserve, none] at reserve
      next =>
        intro task present allocated
        have found : task ∈ app.tasks.inState .allocated :=
          List.mem_filter.mpr ⟨present, by simpa using allocated⟩
        simp [Gang.shouldReserve, List.ne_nil_of_mem found] at reserve
    simp [afterAccepted, spared]

end Application

end GangScheduling
