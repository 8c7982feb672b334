import GangScheduling.Application.Handle
import GangScheduling.Proofs.Lifecycle
import Mathlib.Data.List.Forall2

set_option autoImplicit false

namespace GangScheduling

def Task.Kept (before after : Task) : Prop :=
  ∃ termination deletions, after = { before with termination, deletions }

theorem Task.Kept.refl (task : Task) : task.Kept task :=
  ⟨task.termination, task.deletions, rfl⟩

theorem TaskSet.kept_modify (tasks : TaskSet) {change : Task → Task}
    (kept : ∀ task : Task, task.Kept (change task)) :
    List.Forall₂ Task.Kept tasks.toList (tasks.modify change).toList := by
  rw [modify, List.forall₂_map_right_iff, List.forall₂_same]
  intro task _
  obtain ⟨termination, deletions, same⟩ := kept task
  exact ⟨termination, deletions, by rw [same]⟩

namespace Application

/-- The effects of an event of that kind on the application, with what each presupposes. -/
inductive Asks (app : Application) (kind : EventKind) : Effect → Prop
  | submission (ask : Option Resource) (fresh : kind = .submit ∨ kind = .recover) :
      Asks app kind (.submit (app.description ask))
  | failure (reason : String) (rejected : kind = .reject) :
      Asks app kind (.dispatch (.application (.fail app.id reason)))
  | run (changed : kind = .updateReservation)
      (complete : Gang.reservationComplete app.groups app.tasks.toList = true) :
      Asks app kind (.dispatch (.application (.run app.id)))
  | cleanUp (ended : kind = .complete ∨ kind = .fail) :
      Asks app kind (.spawn (.cleanUp app.id false))
  | reserve (entered : kind = .tryReserve) :
      Asks app kind (.spawn (.reserve app.reservation app.reservation.plan))
  | record (event : PodEvent) : Asks app kind (.record event)
  | note (notice : Notice) : Asks app kind (.note notice)

variable {app after : Application} {event : ApplicationEvent} {effects : List Effect}

theorem Asks.of_state {kind : EventKind} {effect : Effect} {state : ApplicationState}
    (asked : Asks { app with state } kind effect) : Asks app kind effect := by
  cases asked with
  | submission ask fresh => exact .submission ask fresh
  | failure reason rejected => exact .failure reason rejected
  | run changed complete => exact .run changed complete
  | cleanUp ended => exact .cleanUp ended
  | reserve entered => exact .reserve entered
  | record event => exact .record event
  | note notice => exact .note notice

theorem respond_frame (app : Application) (event : ApplicationEvent) :
    ∃ tasks, (app.respond event).1 = { app with tasks } := by
  unfold respond
  split
  case h_7 =>
    unfold onReleaseAllocation
    split <;> exact ⟨_, rfl⟩
  case h_8 =>
    unfold onReleaseAllocationAsk
    split
    next => exact ⟨_, rfl⟩
    next => split <;> exact ⟨_, rfl⟩
  all_goals exact ⟨_, rfl⟩

theorem kept_respond (app : Application) (event : ApplicationEvent) :
    List.Forall₂ Task.Kept app.tasks.toList (app.respond event).1.tasks.toList := by
  have same : List.Forall₂ Task.Kept app.tasks.toList app.tasks.toList :=
    List.forall₂_same.mpr fun task _ => .refl task
  unfold respond
  split
  case h_7 =>
    unfold onReleaseAllocation
    split
    next => exact same
    next =>
      apply TaskSet.kept_modify
      intro task
      split
      next => exact ⟨_, _, rfl⟩
      next => exact .refl task
  case h_8 =>
    unfold onReleaseAllocationAsk
    split
    next => exact same
    next =>
      split
      next => exact same
      next =>
        apply TaskSet.kept_modify
        intro task
        split
        next => split <;> exact ⟨_, _, rfl⟩
        next => exact .refl task
  all_goals exact same

theorem asks_of_onFail {effect : Effect} (kind : event.kind = .fail)
    (member : effect ∈ app.onFail event) : Asks app event.kind effect := by
  simp only [onFail, List.mem_cons] at member
  cases member with
  | inl spawned => exact spawned ▸ .cleanUp (.inr kind)
  | inr said =>
    split at said
    next =>
      obtain ⟨recorded, -, rfl⟩ := List.mem_map.mp said
      exact .record recorded
    next =>
      cases List.mem_singleton.mp said
      exact .note _

theorem asks_of_notices {notices : List Notice} {effect : Effect}
    (member : effect ∈ notices.map Effect.note) : Asks app event.kind effect := by
  obtain ⟨notice, -, rfl⟩ := List.mem_map.mp member
  exact .note notice

theorem asks_of_respond {effect : Effect} (member : effect ∈ (app.respond event).2) :
    Asks app event.kind effect := by
  -- One case for each kind of event that something follows from, in the order of `respond`.
  unfold respond at member
  split at member
  next kind =>
    cases List.mem_singleton.mp member
    exact .submission app.ask (.inl kind)
  next kind =>
    cases List.mem_singleton.mp member
    exact .submission none (.inr kind)
  next kind =>
    cases List.mem_singleton.mp member
    exact .failure _ kind
  next kind =>
    cases List.mem_singleton.mp member
    exact .cleanUp (.inl kind)
  next kind => exact asks_of_onFail kind member
  next kind =>
    dsimp only at member
    split at member
    next complete =>
      cases List.mem_singleton.mp member
      exact .run kind complete
    next => cases member
  next =>
    unfold onReleaseAllocation at member
    split at member <;> exact asks_of_notices member
  next =>
    unfold onReleaseAllocationAsk at member
    split at member
    next => exact asks_of_notices member
    next => split at member <;> exact asks_of_notices member
  next => cases member

theorem fail_of_record {recorded : PodEvent} (member : .record recorded ∈ (app.respond event).2) :
    event.kind = .fail := by
  have noted {notices : List Notice} : Effect.record recorded ∉ notices.map Effect.note := by simp
  unfold respond at member
  split at member
  case h_5 kind => exact kind
  case h_6 =>
    dsimp only at member
    split at member <;> simp at member
  case h_7 =>
    unfold onReleaseAllocation at member
    split at member <;> exact absurd member noted
  case h_8 =>
    unfold onReleaseAllocationAsk at member
    split at member
    next => exact absurd member noted
    next => split at member <;> exact absurd member noted
  all_goals simp at member

theorem asks_of_enter {effect : Effect} {next : ApplicationState}
    (route : Lifecycle.next app.state event.kind = some next) (moved : next ≠ app.state)
    (member : effect ∈ { app with state := next }.enter next) : Asks app event.kind effect := by
  cases next with
  | reserving =>
    cases List.mem_singleton.mp member
    exact .reserve (Lifecycle.next_reserving route moved)
  | _ => cases member

theorem eq_of_handle (handled : app.handle event = .ok (after, effects)) :
    ∃ next, Lifecycle.next app.state event.kind = some next ∧
      after = ({ app with state := next }.respond event).1 ∧
      effects = (if next = app.state then [] else { app with state := next }.enter next) ++
        ({ app with state := next }.respond event).2 := by
  unfold handle at handled
  cases route : Lifecycle.next app.state event.kind with
  | none => simp [route] at handled
  | some next =>
    simp only [route, Except.ok.injEq, Prod.mk.injEq] at handled
    exact ⟨next, rfl, handled.1.symm, handled.2.symm⟩

/-- A call that succeeds follows a route of the lifecycle, and asks for nothing unexpected. -/
theorem handle_ok (handled : app.handle event = .ok (after, effects)) :
    Lifecycle.next app.state event.kind = some after.state ∧ after.id = app.id ∧
      ∀ effect ∈ effects, Asks app event.kind effect := by
  obtain ⟨next, route, rfl, rfl⟩ := eq_of_handle handled
  obtain ⟨tasks, same⟩ := respond_frame { app with state := next } event
  refine ⟨by rw [same, route], by rw [same], ?_⟩
  intro effect member
  cases List.mem_append.mp member with
  | inl entered =>
    split at entered
    next => cases entered
    next moved => exact asks_of_enter route moved entered
  | inr said => exact (asks_of_respond said).of_state

theorem handle_frame (handled : app.handle event = .ok (after, effects)) :
    ∃ state tasks, after = { app with state, tasks } := by
  obtain ⟨next, -, rfl, -⟩ := eq_of_handle handled
  obtain ⟨tasks, same⟩ := respond_frame { app with state := next } event
  exact ⟨next, tasks, same⟩

theorem kept_handle (handled : app.handle event = .ok (after, effects)) :
    List.Forall₂ Task.Kept app.tasks.toList after.tasks.toList := by
  obtain ⟨next, -, rfl, -⟩ := eq_of_handle handled
  exact kept_respond { app with state := next } event

theorem handle_of_illegal (illegal : app.canHandle event.kind = false) :
    app.handle event = .error (.invalidTransition event.kind app.state) := by
  have absent : Lifecycle.next app.state event.kind = none := by simpa [canHandle] using illegal
  simp [handle, absent]

theorem handle_of_canHandle (legal : app.canHandle event.kind = true) :
    ∃ after effects, app.handle event = .ok (after, effects) := by
  obtain ⟨next, route⟩ := Option.isSome_iff_exists.mp legal
  unfold handle
  rw [route]
  exact ⟨_, _, rfl⟩

theorem handle_of_next {next : ApplicationState}
    (route : Lifecycle.next app.state event.kind = some next) (other : event.kind ≠ .tryReserve) :
    app.handle event = .ok ({ app with state := next }.respond event) := by
  have entered : (if next = app.state then [] else { app with state := next }.enter next) = [] := by
    split
    next => rfl
    next moved =>
      cases next with
      | reserving => exact absurd (Lifecycle.next_reserving route moved) other
      | _ => rfl
  unfold handle
  simp only [route, entered, List.nil_append]

theorem respond_of_handle (handled : app.handle event = .ok (after, effects))
    (other : event.kind ≠ .tryReserve) :
    ∃ state, { app with state }.respond event = (after, effects) :=
  ⟨_, Except.ok.inj ((handle_of_next (handle_ok handled).1 other).symm.trans handled)⟩

theorem canHandle_of_handle (handled : app.handle event = .ok (after, effects)) :
    app.canHandle event.kind = true := by
  simp [canHandle, (handle_ok handled).1]

theorem illegal_of_handle {fault : Error} (refused : app.handle event = .error fault) :
    app.canHandle event.kind = false := by
  cases legal : app.canHandle event.kind with
  | false => rfl
  | true =>
    obtain ⟨after, effects, handled⟩ := handle_of_canHandle legal
    rw [refused] at handled
    cases handled

theorem submission_of_handle (handled : app.handle event = .ok (after, effects))
    (fresh : event.kind = .submit ∨ event.kind = .recover) :
    ∃ description, description.application = app.id ∧ .submit description ∈ effects := by
  obtain ⟨next, -, -, rfl⟩ := eq_of_handle handled
  cases fresh with
  | inl submit =>
    refine ⟨app.description app.ask, rfl, List.mem_append_right _ ?_⟩
    simp [respond, submit, description]
  | inr recover =>
    refine ⟨app.description none, rfl, List.mem_append_right _ ?_⟩
    simp [respond, recover, description]

theorem failure_of_handle (handled : app.handle event = .ok (after, effects))
    (rejected : event.kind = .reject) :
    ∃ reason, .dispatch (.application (.fail app.id reason)) ∈ effects := by
  obtain ⟨next, -, -, rfl⟩ := eq_of_handle handled
  exact ⟨_, List.mem_append_right _ (by simp [respond, rejected]; rfl)⟩

theorem cleanUp_of_handle (handled : app.handle event = .ok (after, effects))
    (ended : event.kind = .complete ∨ event.kind = .fail) :
    .spawn (.cleanUp app.id false) ∈ effects := by
  obtain ⟨next, -, -, rfl⟩ := eq_of_handle handled
  refine List.mem_append_right _ ?_
  cases ended with
  | inl complete => simp [respond, complete]
  | inr fail => simp [respond, fail, onFail]

theorem handle_submit (fresh : app.state = .new) :
    app.handle (.submit app.id) =
      .ok ({ app with state := .submitted }, [.submit (app.description app.ask)]) := by
  have next : Lifecycle.next .new .submit = some .submitted := by decide
  simp [handle, respond, enter, ApplicationEvent.submit, description, fresh, next]

theorem handle_accept (submitted : app.state = .submitted) (kind : event.kind = .accept) :
    app.handle event = .ok ({ app with state := .accepted }, []) := by
  have next : Lifecycle.next .submitted .accept = some .accepted := by decide
  simp [handle, respond, enter, submitted, kind, next]

theorem handle_tryReserve (accepted : app.state = .accepted) (kind : event.kind = .tryReserve) :
    app.handle event = .ok ({ app with state := .reserving },
      [.spawn (.reserve app.reservation app.reservation.plan)]) := by
  have next : Lifecycle.next .accepted .tryReserve = some .reserving := by decide
  simp [handle, respond, enter, reservation, space, accepted, kind, next]

theorem handle_run_of_accepted (accepted : app.state = .accepted) (kind : event.kind = .run) :
    app.handle event = .ok ({ app with state := .running }, []) := by
  have next : Lifecycle.next .accepted .run = some .running := by decide
  simp [handle, respond, enter, accepted, kind, next]

theorem handle_run (reserving : app.state = .reserving) (kind : event.kind = .run) :
    app.handle event = .ok ({ app with state := .running }, []) := by
  have next : Lifecycle.next .reserving .run = some .running := by decide
  simp [handle, respond, enter, reserving, kind, next]

end Application

end GangScheduling
