import GangScheduling.Proofs.System.Quiet

set_option autoImplicit false

namespace GangScheduling

namespace System

open ResourceManager (Finishes Milestone Works)

inductive Caused (id : String) (log : List Observation) : Prop
  | skipped (holder : Holder) (app : Application) (seen : .scheduled holder app ∈ log)
      (own : app.id = id) (accepted : app.state = .accepted)
      (ready : app.groups = [] ∨ ∃ task ∈ app.tasks.toList, task.state = .allocated) :
      Caused id log
  | reserved (holder : Holder) (app : Application) (event : ApplicationEvent)
      (seen : .handled holder app event ∈ log) (own : app.id = id)
      (reserving : app.state = .reserving) (kind : event.kind = .updateReservation)
      (complete : Gang.reservationComplete app.groups app.tasks.toList = true) : Caused id log
  -- Placeholders could not be created, and were cleaned up before the run event was sent.
  | fellBack
      (seen : [.worked (.creationFailed id), .worked (.cleanUpBegun id true),
        .worked (.cleanUpEnded id true)].Sublist log) : Caused id log
  | released (holder : Holder) (app : Application) (event : ApplicationEvent)
      (seen : .handled holder app event ∈ log) (own : app.id = id)
      (waiting : app.state = .accepted ∨ app.state = .reserving)
      (kind : event.kind = .releaseAllocationAsk) : Caused id log

inductive FallsBack (id : String) : Job → Prop
  | cleanUp : FallsBack id (.cleanUp id true)
  | delete (pods : List Pod) : FallsBack id (.delete id pods true)

structure Guarded (id : String) (log : List Observation) (s : System) : Prop where
  running : ∀ app ∈ s.applications, app.id = id → app.state = .running → Caused id log
  queued : ∀ event, .event (.application event) ∈ s.queue → event.application = id →
    event.kind = .run → Caused id log
  -- Work that will end with a run event is as far as what was observed of it.
  cleaning : .cleanUp id true ∈ s.manager.jobs → .worked (.creationFailed id) ∈ log
  deleting : ∀ pods, .delete id pods true ∈ s.manager.jobs →
    [.worked (.creationFailed id), .worked (.cleanUpBegun id true)].Sublist log

structure Unstarted (id : String) (s : System) : Prop where
  running : ∀ app ∈ s.applications, app.id = id → app.state ≠ .running
  queued : ∀ event, .event (.application event) ∈ s.queue → event.application = id →
    event.kind ≠ .run
  working : ∀ job ∈ s.manager.jobs, ¬ FallsBack id job

variable {id : String} {log more : List Observation} {s later : System}

theorem Caused.mono (caused : Caused id log) (more : List Observation) :
    Caused id (log ++ more) := by
  cases caused with
  | skipped holder app seen own accepted ready =>
    exact .skipped holder app (List.mem_append_left _ seen) own accepted ready
  | reserved holder app event seen own reserving kind complete =>
    exact .reserved holder app event (List.mem_append_left _ seen) own reserving kind complete
  | fellBack seen => exact .fellBack (seen.trans (List.sublist_append_left _ _))
  | released holder app event seen own waiting kind =>
    exact .released holder app event (List.mem_append_left _ seen) own waiting kind

theorem Unstarted.guarded (unstarted : Unstarted id s) : Guarded id [] s where
  running app member own running := absurd running (unstarted.running app member own)
  queued event queued own run := absurd run (unstarted.queued event queued own)
  cleaning held := absurd .cleanUp (unstarted.working _ held)
  deleting pods held := absurd (.delete pods) (unstarted.working _ held)

theorem Guarded.next (guarded : Guarded id log s)
    (running : ∀ app ∈ later.applications, app.id = id → app.state = .running →
      (∃ before ∈ s.applications, before.id = id ∧ before.state = .running) ∨
        Caused id (log ++ more))
    (queued : ∀ event, .event (.application event) ∈ later.queue → event.application = id →
      event.kind = .run → .event (.application event) ∈ s.queue ∨ Caused id (log ++ more))
    (working : ∀ job ∈ later.manager.jobs, FallsBack id job → job ∈ s.manager.jobs) :
    Guarded id (log ++ more) later where
  running app member own runs := by
    cases running app member own runs with
    | inl before =>
      obtain ⟨before, present, same, ran⟩ := before
      exact (guarded.running before present same ran).mono more
    | inr caused => exact caused
  queued event member own run := by
    cases queued event member own run with
    | inl before => exact (guarded.queued event before own run).mono more
    | inr caused => exact caused
  cleaning held := List.mem_append_left _ (guarded.cleaning (working _ held .cleanUp))
  deleting pods held :=
    (guarded.deleting pods (working _ held (.delete pods))).trans (List.sublist_append_left _ _)

theorem Guarded.quiet (guarded : Guarded id log s)
    (running : ∀ app ∈ later.applications, app.state = .running →
      ∃ before ∈ s.applications, before.id = app.id ∧ before.state = .running)
    (queued : ∀ event, .event event ∈ later.queue → .event event ∈ s.queue)
    (jobs : later.manager.jobs = s.manager.jobs) : Guarded id (log ++ more) later := by
  apply guarded.next
  next =>
    intro app member own runs
    obtain ⟨before, present, same, ran⟩ := running app member runs
    exact .inl ⟨before, present, same.trans own, ran⟩
  next => exact fun event member _ _ => .inl (queued _ member)
  next => exact fun job member _ => jobs ▸ member

theorem Guarded.same (guarded : Guarded id log s) (apps : later.applications = s.applications)
    (queue : later.queue = s.queue) (jobs : later.manager.jobs = s.manager.jobs) :
    Guarded id (log ++ more) later := by
  apply guarded.quiet
  next => exact fun app member runs => ⟨app, apps ▸ member, rfl, runs⟩
  next => exact fun event member => queue ▸ member
  next => exact jobs

section Calls

variable {holder : Holder} {app after : Application} {effects : List Effect}

theorem guarded_apply (guarded : Guarded id log s) (found : s.find? holder = some app)
    (sameId : after.id = app.id)
    (running : app.id = id → after.state = .running →
      app.state = .running ∨ Caused id (log ++ more))
    (raised : ∀ event, ResourceManager.Raised effects (.application event) →
      event.application = id → event.kind = .run → Caused id (log ++ more))
    (spawned : ∀ job, .spawn job ∈ effects → ¬ FallsBack id job) :
    Guarded id (log ++ more) (s.apply holder (after, effects)) := by
  apply guarded.next
  next =>
    intro other member own runs
    rw [applications_apply] at member
    cases mem_put member with
    | inl before => exact .inl ⟨other, before, own, runs⟩
    | inr same =>
      subst same
      have here := sameId ▸ own
      exact (running here runs).imp (fun ran => ⟨app, mem_of_find? found, here, ran⟩) fun h => h
  next =>
    intro event member own run
    exact (mem_queue_apply member).imp (fun before => before) fun h => raised event h own run
  next =>
    intro job member fallsBack
    exact (mem_jobs_apply member).elim (fun before => before)
      fun h => absurd fallsBack (spawned job h)

theorem guarded_handle (guarded : Guarded id log s) (event : ApplicationEvent)
    (caused : ∀ app, s.find? holder = some app → app.id = id → event.kind = .run →
      Caused id log) :
    Guarded id (log ++ s.observeHandle holder event) (s.handle holder event) := by
  rcases handle_cases s holder event with
    ⟨same, silent, -⟩ | ⟨app, after, effects, found, handled, moved, seen⟩
  next =>
    rw [same, silent, List.append_nil]
    exact guarded
  next =>
    obtain ⟨route, sameId, asks⟩ := Application.handle_ok handled
    rw [moved, seen]
    have last : .handled holder app event ∈ log ++ [.handled holder app event] :=
      List.mem_append_right _ List.mem_cons_self
    apply guarded_apply guarded found sameId
    next =>
      intro own runs
      rw [runs] at route
      -- Of the three ways into `running` a run event is the one that was caused earlier.
      rcases Lifecycle.next_running route with ran | run | ⟨release, waiting⟩
      next => exact .inl ran
      next => exact .inr ((caused app found own run).mono _)
      next => exact .inr (.released holder app event last own waiting release)
    next =>
      intro sent raised own run
      cases raised with
      | accepted => cases run
      | refused => cases run
      | sent _ member =>
        cases asks _ member with
        | failure => cases run
        | run changed complete =>
          rw [changed] at route
          have reserving := Lifecycle.state_of_updateReservation route
          exact .reserved holder app event last own reserving changed complete
    next =>
      intro job member fallsBack
      cases asks _ member with
      | cleanUp => cases fallsBack
      | reserve => cases fallsBack

theorem guarded_schedule (guarded : Guarded id log s) (holder : Holder) :
    Guarded id (log ++ s.observeSchedule holder) (s.schedule holder) := by
  rcases schedule_cases s holder with
    ⟨same, silent, -⟩ | ⟨app, found, ⟨-, moved, seen⟩ | ⟨notNew, moved, seen⟩⟩
  next =>
    rw [same, silent, List.append_nil]
    exact guarded
  next =>
    rw [moved, seen, List.append_cons]
    apply guarded_handle
    next => exact guarded.quiet (fun app member runs => ⟨app, member, rfl, runs⟩) (fun _ h => h) rfl
    next => exact fun _ _ _ run => nomatch run
  next =>
    obtain ⟨-, sends⟩ := Application.schedule_not_new notNew
    rw [moved, seen]
    have last : .scheduled holder app ∈ log ++ [.scheduled holder app] :=
      List.mem_append_right _ List.mem_cons_self
    apply guarded_apply guarded found rfl
    next => exact fun _ ran => .inl ran
    next =>
      intro event raised own run
      cases raised with
      | accepted => cases run
      | refused => cases run
      | sent _ member =>
        cases sends _ member with
        | further accepted =>
          exact .skipped holder app last own accepted (Application.kind_afterAccepted_run run)
    next =>
      intro job member
      cases sends _ member

end Calls

theorem guarded_advance (guarded : Guarded id log s) :
    Guarded id (log ++ s.observe .advance) (s.step .advance) := by
  have way := goes_of_advance s
  generalize s.observe .advance = seen, s.step .advance = later at way ⊢
  cases way with
  | still later alike queue =>
    exact guarded.same alike.applications queue alike.jobs
  | skips entry later alike first =>
    apply guarded.quiet
    next => exact fun app member runs => ⟨app, alike.applications ▸ member, rfl, runs⟩
    next => exact fun event member => first ▸ List.mem_cons_of_mem _ member
    next => exact alike.jobs
  | hands event taken later before first after queue =>
    have waiting : Guarded id (log ++ []) taken := by
      apply guarded.quiet
      next => exact fun app member runs => ⟨app, before.applications ▸ member, rfl, runs⟩
      next => exact fun event member => first ▸ List.mem_cons_of_mem _ member
      next => exact before.jobs
    rw [List.append_nil] at waiting
    -- A run event that comes out of the queue was caused before it was queued.
    have caused (app : Application) (found : taken.find? (.registered event.application) = some app)
        (own : app.id = id) (run : event.kind = .run) : Caused id log := by
      have addressed : event.application = id := (Registry.id_of_find? found).symm.trans own
      exact guarded.queued event (first ▸ List.mem_cons_self) addressed run
    have handled := guarded_handle waiting event caused
    rw [← List.append_nil (log ++ _)]
    exact handled.same after.applications queue after.jobs

section Work

variable {job : Job} {milestone : Option Milestone} {left : Option Job}

theorem caused_of_finishes {event : ApplicationEvent} (guarded : Guarded id log s)
    (present : job ∈ s.manager.jobs) (works : Works job milestone left)
    (finishes : Finishes job (.application event)) (own : event.application = id) :
    Caused id (log ++ milestone.toList.map .worked) := by
  cases finishes with
  | run application =>
    cases own
    cases works with
    | ended =>
      -- The end of the clean-up completes the sequence that the deletions kept open.
      exact .fellBack ((guarded.deleting [] present).append (List.Sublist.refl _))

theorem cleaning_of_works (works : Works job milestone (some (.cleanUp id true))) :
    .worked (.creationFailed id) ∈ log ++ milestone.toList.map .worked := by
  cases works with
  | failing => exact List.mem_append_right _ List.mem_cons_self

theorem deleting_of_works {pods : List Pod} (guarded : Guarded id log s)
    (present : job ∈ s.manager.jobs) (works : Works job milestone (some (.delete id pods true))) :
    [.worked (.creationFailed id), .worked (.cleanUpBegun id true)].Sublist
      (log ++ milestone.toList.map .worked) := by
  cases works with
  | forgetting =>
    have failed := List.singleton_sublist.mpr (guarded.cleaning present)
    exact failed.append (List.Sublist.refl _)
  | deleting => exact (guarded.deleting _ present).trans (List.sublist_append_left _ _)

theorem guarded_work (guarded : Guarded id log s) (index : Nat) :
    Guarded id (log ++ s.observe (.work index)) (s.step (.work index)) := by
  simp only [step, onManager, observe]
  rcases ResourceManager.work_cases s.manager index with
    ⟨same, silent⟩ | ⟨job, jobs, present, own, same, reached, origin⟩
  next => simpa [same, silent] using guarded
  next =>
    have works := ResourceManager.works_of_stepJob s.manager own
    have extended := ResourceManager.extends_stepJob s.manager own fun _ => False
    rw [same, reached]
    exact
      { running := by
          intro app member owned runs
          have before : app ∈ s.applications := by
            simpa [applications, extended.registry] using member
          exact (guarded.running app before owned runs).mono _
        queued := by
          intro event member owned run
          cases extended.mem_queue member with
          | inl before => exact (guarded.queued event before owned run).mono _
          | inr finishes => exact caused_of_finishes guarded present works finishes owned
        cleaning := by
          intro member
          cases origin _ member with
          | inl before => exact List.mem_append_left _ (guarded.cleaning before)
          | inr goesOn => exact cleaning_of_works (goesOn ▸ works)
        deleting := by
          intro pods member
          cases origin _ member with
          | inl before =>
            exact (guarded.deleting pods before).trans (List.sublist_append_left _ _)
          | inr goesOn => exact deleting_of_works guarded present (goesOn ▸ works) }

end Work

theorem guarded_extends {raised : Event → Prop} {m : ResourceManager} (guarded : Guarded id log s)
    (extended : ResourceManager.Extends raised (fun _ => False) s.manager m)
    (harmless : ∀ event, raised (.application event) → event.application = id →
      event.kind ≠ .run) : Guarded id (log ++ more) { s with manager := m } := by
  apply guarded.next
  next =>
    intro app member own runs
    refine .inl ⟨app, ?_, own, runs⟩
    simpa [applications, extended.registry] using member
  next =>
    intro event member own run
    exact (extended.mem_queue member).imp (fun before => before)
      fun h => absurd run (harmless event h own)
  next => exact fun job member _ => (extended.mem_jobs member).elim (fun before => before) False.elim

theorem guarded_quiet {move : Move} (guarded : Guarded id log s) (quiet : move.isQuiet = true) :
    Guarded id (log ++ more) (s.step move) := by
  have frame := quiet_step s move quiet
  apply guarded.quiet
  next =>
    intro app member runs
    cases frame.known app member with
    | inl fresh =>
      rw [runs] at fresh
      cases fresh
    | inr origin =>
      obtain ⟨before, present, same, state⟩ := origin
      exact ⟨before, present, same, state.trans runs⟩
  next => exact fun event => (frame.events event).mp
  next => exact frame.jobs

theorem guarded_step (guarded : Guarded id log s) (move : Move) (spares : ¬ s.sends .run id move) :
    Guarded id (log ++ s.observe move) (s.step move) := by
  cases move with
  | handle holder event =>
    apply guarded_handle guarded event
    intro app found own run
    exact absurd ⟨run, app, found, own⟩ spares
  | schedule holder => exact guarded_schedule guarded holder
  | advance => exact guarded_advance guarded
  | work index => exact guarded_work guarded index
  | dispatch event =>
    refine guarded_extends guarded (ResourceManager.extends_dispatch s.manager event _) ?_
    rintro sent rfl own run
    exact spares ⟨own, run⟩
  | respond response =>
    refine guarded_extends guarded (ResourceManager.extends_respond s.manager response _) ?_
    intro event answers own run
    cases answers <;> cases run
  | _ => exact guarded_quiet guarded rfl

theorem guarded_run (guarded : Guarded id log s) (moves : List Move)
    (without : s.Without .run id moves) : Guarded id (log ++ s.observed moves) (s.run moves) := by
  -- The log grows along the run, so it is generalized with the state.
  induction moves generalizing s log with
  | nil => simpa [run, observed] using guarded
  | cons move rest ih =>
    simp only [observed, ← List.append_assoc]
    exact ih (guarded_step guarded move without.1) without.2

theorem caused_of_running (unstarted : Unstarted id s) {before : List Move} (after : List Move)
    (without : s.Without .run id (before ++ after)) {app : Application}
    (member : app ∈ (s.run before).applications) (own : app.id = id)
    (running : app.state = .running) : Caused id (s.observed (before ++ after)) := by
  have guarded := guarded_run unstarted.guarded before without.of_append
  rw [observed_append]
  exact (guarded.running app member own running).mono _

theorem running_of_sent {call : Observation} {app : Application} {task : Task}
    (subject : call.subject? = some app) (present : task ∈ app.tasks.toList)
    (own : task.placeholder = false)
    (sent : .dispatch (.task { application := app.id, task := task.id }) ∈ call.effects) :
    app.state = .running := by
  cases call with
  | scheduled holder app =>
    cases subject
    simp only [Observation.effects] at sent
    split at sent
    next => cases sent
    next moved => exact Application.running_of_start moved present own sent
  | handled holder app event =>
    cases subject
    simp only [Observation.effects] at sent
    split at sent
    next after effects handled => cases (Application.handle_ok handled).2.2 _ sent
    next => cases sent
  | answered response => cases subject
  | worked milestone => cases subject

/-- Without run events from outside an application that has not started only ever runs for a cause,
and until then none of its own tasks is sent on its way. -/
theorem running_has_cause (id : String) (s : System) (moves : List Move)
    (unstarted : Unstarted id s) (without : s.Without .run id moves) :
    (∀ before after, moves = before ++ after → ∀ app ∈ (s.run before).applications,
        app.id = id → app.state = .running → Caused id (s.observed moves)) ∧
      (¬ Caused id (s.observed moves) → ∀ call ∈ s.observed moves, ∀ app,
        call.subject? = some app → app.id = id →
          ∀ task ∈ app.tasks.toList, task.placeholder = false →
            .dispatch (.task { application := id, task := task.id }) ∉ call.effects) := by
  constructor
  next =>
    rintro before after rfl app member own running
    exact caused_of_running unstarted after without member own running
  next =>
    -- The application runs at the call, and then the part of the run before it has the cause.
    rintro uncaused call seen app subject rfl task present own sent
    obtain ⟨before, move, after, rfl, observed⟩ := mem_observed seen
    exact uncaused (caused_of_running unstarted (move :: after) without
      (subject_mem observed subject) rfl (running_of_sent subject present own sent))

def crowded : System :=
  { manager :=
      { config := { workerThreads := 1 }
        registry := Registry.empty.add oneWorker
        dispatcher := {}
        scheduler := { acceptsAll := true, receiver := some () }
        placeholders := { client := { limit := some 0 } } } }

def fallBack : List Move :=
  [.install, .start, .schedule (.registered "app-1"), .advance, .schedule (.registered "app-1"),
   .advance, .work 0, .work 0, .work 0, .advance]

theorem unstarted_crowded : Unstarted "app-1" crowded where
  running := by decide
  queued := by
    intro event queued
    cases queued
  working := by
    intro job held
    cases held

theorem running_has_cause_fallBack :
    Unstarted "app-1" crowded ∧ crowded.Without .run "app-1" fallBack ∧
      (∃ app ∈ (crowded.run fallBack).applications, app.id = "app-1" ∧ app.state = .running) ∧
      Caused "app-1" (crowded.observed fallBack) := by
  have without : crowded.Without .run "app-1" fallBack := by simp [Without, fallBack, sends]
  have runs : ∃ app ∈ (crowded.run fallBack).applications,
      app.id = "app-1" ∧ app.state = .running := by decide
  refine ⟨unstarted_crowded, without, runs, ?_⟩
  obtain ⟨app, member, own, running⟩ := runs
  have causes := running_has_cause "app-1" crowded fallBack unstarted_crowded without
  exact causes.1 fallBack [] (List.append_nil fallBack).symm app member own running

end System

end GangScheduling
