import GangScheduling.Proofs.Application.History

set_option autoImplicit false

namespace GangScheduling

theorem Lifecycle.next_fail {state after : ApplicationState}
    (h : next state .fail = some after) : state ≠ .failed ∧ after = .failed := by
  rw [next_eq_route] at h
  cases state <;> simp at h ⊢ <;> exact h.symm

namespace Application

variable {app after : Application} {event : ApplicationEvent} {effects : List Effect}

def warning (app : Application) (reason : String) (task : Task) : PodEvent :=
  { pod := task.pod
    severity := .warning
    reason := "ApplicationFailed"
    message := "Application " ++ app.id ++ " scheduling failed, reason: " ++ reason }

def warnings (app : Application) (event : ApplicationEvent) : List PodEvent :=
  -- Without one single reason there are none.
  match event.arguments with
  | [reason] =>
    (app.tasks.toList.filter fun task =>
      task.state = .new ∨ task.state = .pending ∨ task.state = .scheduling).map (app.warning reason)
  | _ => []

theorem pods_warnings (app : Application) (event : ApplicationEvent) :
    ((app.warnings event).map (·.pod)).Sublist (app.tasks.toList.map (·.pod)) := by
  unfold warnings
  split
  next reason given =>
    rw [List.map_map]
    exact List.filter_sublist.map _
  next => exact List.nil_sublist _

theorem failureEvents_eq (app : Application) (reason : String) :
    app.failureEvents reason =
      (app.tasks.toList.filter fun task =>
        task.state = .new ∨ task.state = .pending ∨ task.state = .scheduling).map
          (app.warning reason) := by
  have unallocated (task : Task) : task.state.isUnallocated =
      decide (task.state = .new ∨ task.state = .pending ∨ task.state = .scheduling) := by
    cases task.state <;> rfl
  simp only [failureEvents, unallocated]
  rfl

theorem onFail_eq (app : Application) (event : ApplicationEvent) :
    ∃ notices : List Notice, app.onFail event =
      .spawn (.cleanUp app.id false) :: (notices.map .note ++ (app.warnings event).map .record) := by
  cases given : event.arguments with
  | nil =>
    exact ⟨[.failureUnreadable app.id (event.wrongCount 1)], by simp [onFail, warnings, given]⟩
  | cons reason others =>
    cases others with
    | nil => exact ⟨[], by simp [onFail, warnings, given, failureEvents_eq]⟩
    | cons =>
      exact ⟨[.failureUnreadable app.id (event.wrongCount 1)], by simp [onFail, warnings, given]⟩

theorem handle_fail (handled : app.handle event = .ok (after, effects))
    (kind : event.kind = .fail) :
    app.state ≠ .failed ∧ after.state = .failed ∧
      effects.filterMap Effect.job? = [.cleanUp app.id false] ∧
      effects.flatMap (·.recorded) = app.warnings event := by
  obtain ⟨alive, failed⟩ := Lifecycle.next_fail (kind ▸ (handle_ok handled).1)
  obtain ⟨state, responded⟩ := respond_of_handle handled (by simp [kind])
  obtain ⟨notices, asked⟩ := onFail_eq { app with state } event
  -- What is asked for does not depend on the state that the application has come to.
  have all : effects = .spawn (.cleanUp app.id false) ::
      (notices.map .note ++ (app.warnings event).map .record) := by
    simp only [respond, kind, Prod.mk.injEq] at responded
    exact responded.2.symm.trans asked
  rw [all]
  exact ⟨alive, failed, by simp [Effect.job?], by simp [Effect.recorded, List.flatMap_map]⟩

def Silent (effects : List Effect) : Prop :=
  ∀ said ∈ effects.flatMap (·.recorded), said.reason ≠ "ApplicationFailed"

theorem silent_of_handle (handled : app.handle event = .ok (after, effects))
    (other : event.kind ≠ .fail) : Silent effects := by
  obtain ⟨moved, -, rfl⟩ := effects_of_handle handled
  intro said recorded
  obtain ⟨effect, member, spoken⟩ := List.mem_flatMap.mp recorded
  cases effect with
  | record event =>
    cases List.mem_append.mp member with
    | inl entered =>
      split at entered
      next => cases entered
      next => cases state : after.state <;> simp [state, enter] at entered
    | inr responded => exact absurd (fail_of_record responded) other
  | _ => cases spoken

theorem silent_of_starts (app : Application) (tasks : List Task) : Silent (tasks.map app.start) := by
  intro said recorded
  obtain ⟨effect, member, spoken⟩ := List.mem_flatMap.mp recorded
  obtain ⟨task, -, rfl⟩ := List.mem_map.mp member
  unfold start at spoken
  split at spoken
  next => cases spoken
  next =>
    cases List.mem_singleton.mp spoken
    exact (by decide : "FailedScheduling" ≠ "ApplicationFailed")

theorem silent_of_schedule (moved : app.state ≠ .new) : Silent app.schedule.2 := by
  unfold schedule
  split
  next fresh => exact absurd fresh moved
  next => exact fun _ said => nomatch said
  next => exact silent_of_starts app _
  next => exact silent_of_starts app _
  next => exact fun _ said => nomatch said

-- A call hands the application one event, or does nothing that can be seen here.
inductive Takes (app : Application) (call : Call) : Prop
  | event (event : ApplicationEvent) (after : Application) (effects : List Effect)
      (response : app.handle event = .ok (after, effects))
      (result : app.call call = (after, effects)) (handled : Turn.handled { app, call } = [event])
  | nothing (state : (app.call call).1.state = app.state) (silent : Silent (app.call call).2)
      (handled : Turn.handled { app, call } = [])

theorem takes_of_event {call : Call} (given : call.event? app = some event)
    (same : app.call call = (app.handle event).toOption.getD (app, [])) : Takes app call := by
  have met := handled_of_event given
  cases legal : app.canHandle event.kind with
  | true =>
    obtain ⟨after, effects, handled⟩ := handle_of_canHandle legal
    rw [handled] at same
    exact .event event after effects handled same (by rw [met, if_pos legal])
  | false =>
    rw [handle_of_illegal legal] at same
    refine .nothing (by rw [same]; rfl) ?_ (by simp [met, legal])
    rw [same]
    exact fun _ said => nomatch said

theorem takes (app : Application) (call : Call) : Takes app call := by
  cases call with
  | handle event => exact takes_of_event rfl rfl
  | recover => exact takes_of_event rfl rfl
  | edit edit => exact .nothing (app.edit_frame edit).2 (fun _ said => nomatch said) rfl
  | schedule =>
    by_cases fresh : app.state = .new
    next =>
      refine takes_of_event (if_pos fresh) ?_
      rw [schedule_new fresh]
      rfl
    next =>
      have same : (app.call .schedule).1 = app := (schedule_not_new fresh).1
      refine .nothing (by rw [same]) (silent_of_schedule fresh) ?_
      simp [Turn.handled, Call.event?, fresh]

def Turn.Quiet (turn : Turn) : Prop :=
  (∀ event ∈ turn.handled, event.kind ≠ .fail) ∧ Silent turn.asked

/-- At most one failure was handled. It cleaned up, and spoke of itself to the tasks that it found,
to each of them at most once; nobody else ever spoke of one. -/
inductive FailsOnce (id : String) (turns : List Turn) : Prop
  | never (quiet : ∀ turn ∈ turns, turn.Quiet)
  | once (earlier later : List Turn) (turn : Turn) (event : ApplicationEvent)
      (split : turns = earlier ++ turn :: later) (handled : turn.handled = [event])
      (kind : event.kind = .fail) (own : turn.app.id = id)
      (cleanUp : turn.asked.filterMap Effect.job? = [.cleanUp id false])
      (announced : turn.asked.flatMap (·.recorded) = turn.app.warnings event)
      (pods : ((turn.app.warnings event).map (·.pod)).Sublist (turn.app.tasks.toList.map (·.pod)))
      (quiet : ∀ other ∈ earlier ++ later, other.Quiet)

theorem FailsOnce.cons {id : String} {turns : List Turn} {turn : Turn} (fails : FailsOnce id turns)
    (silent : turn.Quiet) : FailsOnce id (turn :: turns) := by
  cases fails with
  | never quiet => exact .never (List.forall_mem_cons.mpr ⟨silent, quiet⟩)
  | once earlier later failing event split handled kind own cleanUp announced pods quiet =>
    exact .once (turn :: earlier) later failing event (by rw [split, List.cons_append]) handled kind
      own cleanUp announced pods (List.forall_mem_cons.mpr ⟨silent, quiet⟩)

theorem Takes.quiet {call : Call} (taken : Takes app call)
    (other : ∀ event ∈ Turn.handled { app, call }, event.kind ≠ .fail) :
    Turn.Quiet { app, call } := by
  refine ⟨other, ?_⟩
  cases taken with
  | event event after effects response result handled =>
    rw [handled] at other
    rw [Turn.asked, result]
    exact silent_of_handle response (other event List.mem_cons_self)
  | nothing _ silent _ => exact silent

theorem quiet_of_failed (failed : app.state = .failed) (calls : List Call) :
    ∀ turn ∈ app.turns calls, turn.Quiet := by
  induction calls generalizing app with
  | nil => simp [turns]
  | cons call rest ih =>
    have taken := takes app call
    refine List.forall_mem_cons.mpr ⟨taken.quiet ?_, ih ?_⟩
    next =>
      -- A failed application takes no failure.
      cases taken with
      | event event after effects response result handled =>
        rw [handled]
        intro only member kind
        cases List.mem_singleton.mp member
        exact (handle_fail response kind).1 failed
      | nothing _ _ handled => simp [handled]
    next =>
      cases taken with
      | event event after effects response result handled =>
        rw [result]
        exact Lifecycle.next_failed (failed ▸ (handle_ok response).1)
      | nothing state _ _ => exact state.trans failed

theorem failsOnce (app : Application) (calls : List Call) : FailsOnce app.id (app.turns calls) := by
  -- The first failure that is handled ends the induction, since no other can follow.
  induction calls generalizing app with
  | nil => exact .never (by simp [turns])
  | cons call rest ih =>
    have taken := takes app call
    by_cases other : ∀ event ∈ Turn.handled { app, call }, event.kind ≠ .fail
    next =>
      have later := ih (app.call call).1
      rw [id_call] at later
      exact later.cons (taken.quiet other)
    next =>
      cases taken with
      | nothing _ _ handled => simp [handled] at other
      | event event after effects response result handled =>
        have kind : event.kind = .fail := by simpa [handled] using other
        obtain ⟨-, failed, cleanUp, announced⟩ := handle_fail response kind
        refine .once [] (after.turns rest) { app, call } event (by simp [turns, result]) handled kind
          rfl ?_ ?_ (pods_warnings app event) (quiet_of_failed failed rest)
        next => rwa [Turn.asked, result]
        next => rwa [Turn.asked, result]

end Application

end GangScheduling
