import GangScheduling.Proofs.ResourceManager.Trail
import GangScheduling.Proofs.System.Life

set_option autoImplicit false

namespace GangScheduling

def Event.task? : Event → Option TaskEvent
  | .task event => some event
  | .application _ => none

def Task.IsReady (task : Task) : Prop :=
  task.readiness = .ok ()

instance (task : Task) : Decidable task.IsReady :=
  decidable_of_iff (task.notReady = none) (by
    unfold Task.IsReady Task.readiness
    cases task.notReady <;> simp)

def Task.refusal? (task : Task) : Option PodEvent :=
  match task.readiness with
  | .ok () => none
  | .error fault =>
    some
      { pod := task.pod
        severity := .warning
        reason := "FailedScheduling"
        message := fault.message }

namespace Application

variable {app : Application}

def Due (app : Application) (task : Task) : Prop :=
  task.state = .new ∧
    (app.state = .reserving ∧ task.placeholder = true ∨
      app.state = .running ∧ task.placeholder = false)

instance (app : Application) : DecidablePred app.Due :=
  fun _ => inferInstanceAs (Decidable (_ ∧ _))

def initOf (app : Application) (task : Task) : TaskEvent :=
  { application := app.id, task := task.id }

theorem due_iff_maySchedule (app : Application) (task : Task) :
    app.Due task ↔ task.state = .new ∧ Gang.maySchedule app.state task.placeholder = true := by
  refine and_congr_right fun _ => ?_
  cases app.state <;> simp [Gang.maySchedule]

theorem perm_eligible (app : Application) :
    app.eligible.Perm (app.tasks.toList.filter fun task => app.Due task) := by
  have sorted : app.eligible.Perm ((app.tasks.inState .new).filter fun task =>
      Gang.maySchedule app.state task.placeholder) :=
    (List.mergeSort_perm _ _).filter _
  have due : ((app.tasks.inState .new).filter fun task =>
        Gang.maySchedule app.state task.placeholder) =
      app.tasks.toList.filter fun task => app.Due task := by
    rw [TaskSet.inState, List.filter_filter]
    refine List.filter_congr fun task _ => ?_
    simp [due_iff_maySchedule, Bool.and_comm]
  exact due ▸ sorted

theorem sorted_eligible (app : Application) :
    app.eligible.Pairwise fun a b => a.created ≤ b.created := by
  have sorted : (app.tasks.oldestFirst .new).Pairwise fun a b => decide (a.created ≤ b.created) := by
    apply List.pairwise_mergeSort
    next =>
      intro a b c first second
      simp only [decide_eq_true_eq] at *
      omega
    next =>
      intro a b
      simp only [Bool.or_eq_true, decide_eq_true_eq]
      omega
  exact (sorted.imp of_decide_eq_true).filter _

theorem dispatched_starts (app : Application) (reception : Reception) (knows : String → Bool)
    (tasks : List Task) :
    (tasks.map app.start).flatMap (·.dispatched reception knows) =
      (tasks.filter fun task => task.IsReady).map fun task => .task (app.initOf task) := by
  induction tasks with
  | nil => rfl
  | cons task rest ih =>
    rw [List.map_cons, List.flatMap_cons, ih]
    cases ready : task.readiness with
    | ok =>
      have passes : task.IsReady := ready
      simp [start, ready, passes, Effect.dispatched, initOf]
    | error fault =>
      have fails : ¬ task.IsReady := by simp [Task.IsReady, ready]
      simp [start, ready, fails, Effect.dispatched]

theorem recorded_starts (app : Application) (tasks : List Task) :
    (tasks.map app.start).flatMap (·.recorded) = tasks.filterMap Task.refusal? := by
  induction tasks with
  | nil => rfl
  | cons task rest ih =>
    rw [List.map_cons, List.flatMap_cons, ih]
    cases ready : task.readiness with
    | ok => simp [start, ready, Task.refusal?, Effect.recorded]
    | error fault => simp [start, ready, Task.refusal?, Effect.recorded]

theorem schedule_of_passing (passing : app.state = .reserving ∨ app.state = .running) :
    app.schedule = (app, app.eligible.map app.start) := by
  cases passing with
  | inl reserving => simp [schedule, reserving]
  | inr running => simp [schedule, running]

theorem tasks_raised (reception : Reception) (knows : String → Bool)
    (description : AddApplication) :
    (reception.raised knows description).filterMap Event.task? = [] := by
  rw [List.filterMap_eq_nil_iff]
  intro event sent
  cases List.mem_append.mp sent with
  | inl answered =>
    obtain ⟨response, -, announced⟩ := List.mem_flatMap.mp answered
    cases List.mem_append.mp announced with
    | inl accepted =>
      obtain ⟨id, -, rfl⟩ := List.mem_map.mp accepted
      rfl
    | inr rejected =>
      obtain ⟨rejection, -, rfl⟩ := List.mem_map.mp rejected
      rfl
  | inr failed =>
    obtain ⟨fault, -, rfl⟩ := List.mem_map.mp failed
    rfl

theorem schedule_of_idle (reserving : app.state ≠ .reserving) (running : app.state ≠ .running)
    (reception : Reception) (knows : String → Bool) :
    (app.schedule.2.flatMap (·.dispatched reception knows)).filterMap Event.task? = [] ∧
      app.schedule.2.flatMap (·.recorded) = [] := by
  -- The application is submitted, sent on its way or left alone.
  by_cases fresh : app.state = .new
  next =>
    have submitted := (schedule_new fresh).symm.trans (handle_submit fresh)
    simp only [Except.ok.injEq] at submitted
    rw [submitted]
    refine ⟨?_, rfl⟩
    simpa [Effect.dispatched] using tasks_raised reception knows _
  next =>
    by_cases accepted : app.state = .accepted
    next =>
      rw [schedule_accepted accepted]
      exact ⟨rfl, rfl⟩
    next =>
      have nothing : app.schedule = (app, []) := by
        cases state : app.state <;> simp_all [schedule]
      rw [nothing]
      exact ⟨rfl, rfl⟩

theorem filter_due_ready (app : Application) :
    (app.tasks.toList.filter fun task => app.Due task ∧ task.IsReady) =
      (app.tasks.toList.filter fun task => app.Due task).filter fun task => task.IsReady := by
  simp [List.filter_filter, Bool.and_comm]

theorem not_due_of_idle (reserving : app.state ≠ .reserving) (running : app.state ≠ .running) :
    (app.tasks.toList.filter fun task => app.Due task) = [] := by
  rw [List.filter_eq_nil_iff]
  intro task _
  simp [Due, reserving, running]

/-- The tasks that are due and ready are started, once each and the older ones first, and the pods
of those that are due and not ready are warned. -/
structure Starts (app after : Application) (dispatched : List Event) (recorded : List PodEvent) :
    Prop where
  started : ∃ started : List Task,
    started.Perm (app.tasks.toList.filter fun task => app.Due task ∧ task.IsReady) ∧
      started.Pairwise (fun a b => a.created ≤ b.created) ∧
      dispatched.filterMap Event.task? = started.map app.initOf
  once : (dispatched.filterMap Event.task?).Nodup
  refused : recorded.Perm
    ((app.tasks.toList.filter fun task => app.Due task).filterMap Task.refusal?)
  passing : app.state = .reserving ∨ app.state = .running →
    after = app ∧ ∀ event ∈ dispatched, event.category = .task
  idle : app.state ≠ .reserving → app.state ≠ .running →
    dispatched.filterMap Event.task? = [] ∧ recorded = []

theorem nodup_initOf (app : Application) {started : List Task}
    (among : started.Sublist app.eligible) : (started.map app.initOf).Nodup := by
  have ids : (app.eligible.map (·.id)).Nodup :=
    ((app.perm_eligible.map (·.id)).nodup_iff).mpr
      ((List.filter_sublist.map _).nodup app.tasks.distinct)
  have own : ((started.map app.initOf).map (·.task)).Nodup := by
    rw [List.map_map]
    exact (among.map _).nodup ids
  exact own.of_map _

theorem starts (app : Application) (reception : Reception) (knows : String → Bool) :
    Starts app app.schedule.1 (app.schedule.2.flatMap (·.dispatched reception knows))
      (app.schedule.2.flatMap (·.recorded)) := by
  by_cases passing : app.state = .reserving ∨ app.state = .running
  next =>
    have events : (((app.eligible.filter fun task => task.IsReady).map
        fun task => Event.task (app.initOf task)).filterMap Event.task?) =
          (app.eligible.filter fun task => task.IsReady).map app.initOf := by
      simp [List.filterMap_map, Function.comp_def, Event.task?]
    rw [schedule_of_passing passing]
    simp only [dispatched_starts, recorded_starts]
    refine ⟨⟨_, ?_, ?_, events⟩, ?_, ?_, ?_, ?_⟩
    next =>
      rw [filter_due_ready]
      exact app.perm_eligible.filter _
    next => exact app.sorted_eligible.filter _
    next =>
      rw [events]
      exact app.nodup_initOf List.filter_sublist
    next => exact app.perm_eligible.filterMap _
    next =>
      refine fun _ => ⟨rfl, ?_⟩
      intro event sent
      obtain ⟨task, -, rfl⟩ := List.mem_map.mp sent
      rfl
    next => exact fun reserving running => absurd passing (by simp [reserving, running])
  next =>
    obtain ⟨reserving, running⟩ := not_or.mp passing
    obtain ⟨unstarted, unwarned⟩ := schedule_of_idle reserving running reception knows
    have none := not_due_of_idle reserving running
    refine ⟨⟨[], ?_, .nil, unstarted⟩, ?_, ?_, fun pass => absurd pass passing,
      fun _ _ => ⟨unstarted, unwarned⟩⟩
    next =>
      rw [filter_due_ready, none]
      exact .nil
    next =>
      rw [unstarted]
      exact List.nodup_nil
    next =>
      rw [unwarned, none]
      exact .nil

end Application

namespace System

open ResourceManager (Calls)

variable {s : System} {holder : Holder} {app after : Application}

theorem calls_apply (found : s.find? holder = some app) (sameId : after.id = app.id)
    (effects : List Effect) :
    Calls s.manager
      (effects.flatMap (·.dispatched s.manager.reception s.manager.registry.knows))
      (effects.flatMap (·.recorded)) (s.apply holder (after, effects)).manager := by
  cases holder with
  | registered id =>
    have performed := ResourceManager.calls_performAll (s.manager.update after) effects
    have here : s.manager.registry.find? after.id = some app := by
      rw [sameId, Registry.id_of_find? found]
      exact found
    have known : (s.manager.update after).registry.knows = s.manager.registry.knows :=
      Trail.knows_modify _ here
    rw [known] at performed
    exact ⟨performed.reception, performed.dispatcher, performed.recorder⟩
  | apart index => exact ResourceManager.calls_performAll s.manager effects

/-- A scheduling call starts exactly the tasks that are due and ready, whatever order they are kept
in, and changes no other application. -/
theorem schedule_starts_due (app : Application) :
    (∀ reception knows, app.Starts app.schedule.1
      (app.schedule.2.flatMap (·.dispatched reception knows))
      (app.schedule.2.flatMap (·.recorded))) ∧
    ∀ s holder, find? s holder = some app →
      Calls s.manager
        (app.schedule.2.flatMap (·.dispatched s.manager.reception s.manager.registry.knows))
        (app.schedule.2.flatMap (·.recorded)) (s.step (.schedule holder)).manager ∧
      (s.step (.schedule holder)).find? holder = some app.schedule.1 ∧
      ∀ place current, place ≠ holder → s.find? place = some current →
        (s.step (.schedule holder)).find? place = some current := by
  refine ⟨app.starts, fun s holder found => ⟨?_, find?_schedule found, ?_⟩⟩
  next =>
    have moved : s.step (.schedule holder) = s.apply holder app.schedule := by
      simp [step, schedule, found]
    rw [moved]
    exact calls_apply found (id_schedule app) app.schedule.2
  next =>
    intro place current other present
    exact find?_schedule_of_ne (Ne.symm other) present

def memberTask (id : String) (created : Nat) (placeholder : Bool) (notReady : Option String) :
    Task :=
  { id, pod := { space := "default", name := id, uid := id }, created, placeholder, notReady }

def mixed (state : ApplicationState) : Application :=
  { id := "app-1", queue := "root.q", user := "u", state
    tasks := [memberTask "late" 2 true none, memberTask "own" 0 false none,
      memberTask "early" 1 true none,
      memberTask "held" 1 true (some "no volume")].foldl .add .empty }

def heldBack : PodEvent :=
  { pod := { space := "default", name := "held", uid := "held" }
    severity := .warning
    reason := "FailedScheduling"
    message := "task error: no volume" }

def taciturn : Reception where
  reply _ := {}
  own := by simp

theorem schedule_starts_due_mixed :
    (((mixed .reserving).schedule.2.flatMap (·.dispatched taciturn fun _ => true)).filterMap
        Event.task?).map (·.task) = ["early", "late"] ∧
      ((mixed .reserving).schedule.2.flatMap (·.recorded)).map (·.message) =
        ["task error: no volume"] ∧
      (((mixed .running).schedule.2.flatMap (·.dispatched taciturn fun _ => true)).filterMap
        Event.task?).map (·.task) = ["own"] := by
  have reserving := (schedule_starts_due (mixed .reserving)).1 taciturn fun _ => true
  have running := (schedule_starts_due (mixed .running)).1 taciturn fun _ => true
  refine ⟨?_, ?_, ?_⟩
  next =>
    obtain ⟨started, among, sorted, events⟩ := reserving.started
    have placeholders : started.Perm
        [memberTask "early" 1 true none, memberTask "late" 2 true none] := among.trans (by decide)
    have order : started = [memberTask "early" 1 true none, memberTask "late" 2 true none] := by
      refine placeholders.eq_of_pairwise ?_ sorted (by decide)
      intro first second member other
      have present := placeholders.mem_iff.mp member
      simp only [List.mem_cons, List.not_mem_nil, or_false] at present other
      rcases present with rfl | rfl <;> rcases other with rfl | rfl <;> decide
    rw [events, order]
    rfl
  next =>
    have warned : List.Perm _ [heldBack] := reserving.refused.trans (by decide)
    rw [List.perm_singleton.mp warned]
    rfl
  next =>
    obtain ⟨started, among, -, events⟩ := running.started
    have own : started.Perm [memberTask "own" 0 false none] := among.trans (by decide)
    rw [events, List.perm_singleton.mp own]
    rfl

end System

end GangScheduling
