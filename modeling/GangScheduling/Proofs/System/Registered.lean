import GangScheduling.Proofs.System.Quiet

set_option autoImplicit false

namespace GangScheduling

namespace System

open ResourceManager (Owed)

variable {id : String} {app : Application} {s taken later : System} {seen : List Observation}

inductive Meets (id : String) (app : Application) (s : System) (seen : List Observation)
    (later : System) : Prop
  | keeps (other : Application) (found : later.find? (.registered id) = some other)
      (sameState : other.state = app.state)
      (unseen : ∀ before event, .handled (.registered id) before event ∉ seen) :
      Meets id app s seen later
  | handles (event : ApplicationEvent) (after : Application) (effects : List Effect)
      (found : later.find? (.registered id) = some after)
      (handled : app.handle event = .ok (after, effects))
      (only : ∀ before other, .handled (.registered id) before other ∈ seen ↔
        before = app ∧ other = event)
      (owed : s.manager.dispatcher.running = true →
        ∀ raised, Owed s.manager.scheduler effects raised → .event raised ∈ later.queue) :
      Meets id app s seen later

theorem registered_of_registry (same : later.manager.registry = s.manager.registry)
    (found : s.find? (.registered id) = some app) : later.find? (.registered id) = some app := by
  simp only [find?, same]
  exact found

theorem Meets.of_registry (same : later.manager.registry = s.manager.registry)
    (found : s.find? (.registered id) = some app)
    (unseen : ∀ before event, .handled (.registered id) before event ∉ seen) :
    Meets id app s seen later :=
  .keeps app (registered_of_registry same found) rfl unseen

theorem meets_apply {other after : Application} {event : ApplicationEvent} {effects : List Effect}
    {holder : Holder} (found : s.find? (.registered id) = some app)
    (here : s.find? holder = some other) (handled : other.handle event = .ok (after, effects)) :
    Meets id app s [.handled holder other event] (s.apply holder (after, effects)) := by
  have sameId := (Application.handle_ok handled).2.1
  have registered := registered_put here sameId found
  rw [← registered_apply s holder after effects] at registered
  by_cases own : holder = .registered id
  next =>
    subst own
    rw [found] at here
    cases here
    refine .handles event after effects (by simpa using registered) handled (by simp) ?_
    intro running raised owed
    obtain ⟨dispatcher, -, scheduler⟩ := put_frame s (.registered id) after
    apply ResourceManager.mem_performAll
    next =>
      rw [dispatcher]
      exact running
    next =>
      rw [scheduler]
      exact owed
  next =>
    rw [if_neg own] at registered
    refine .keeps app registered rfl ?_
    simp [Ne.symm own]

theorem meets_handle (found : s.find? (.registered id) = some app) (holder : Holder)
    (event : ApplicationEvent) :
    Meets id app s (s.observeHandle holder event) (s.handle holder event) := by
  rcases handle_cases s holder event with
    ⟨same, silent, -⟩ | ⟨other, after, effects, here, handled, moved, seen⟩
  next =>
    rw [same, silent]
    exact .of_registry rfl found (by simp)
  next =>
    rw [moved, seen]
    exact meets_apply found here handled

theorem Meets.scheduled (meets : Meets id app s seen later) (holder : Holder)
    (other : Application) : Meets id app s (.scheduled holder other :: seen) later := by
  cases meets with
  | keeps kept found sameState unseen => exact .keeps kept found sameState (by simpa using unseen)
  | handles event after effects found handled only owed =>
    exact .handles event after effects found handled (by simpa using only) owed

theorem meets_schedule (found : s.find? (.registered id) = some app) (holder : Holder) :
    Meets id app s (s.observeSchedule holder) (s.schedule holder) := by
  rcases schedule_cases s holder with
    ⟨same, silent, -⟩ | ⟨other, here, ⟨-, moved, seen⟩ | ⟨-, moved, seen⟩⟩
  next =>
    rw [same, silent]
    exact .of_registry rfl found (by simp)
  next =>
    rw [moved, seen]
    exact (meets_handle found holder _).scheduled holder other
  next =>
    rw [moved, seen]
    have registered := registered_put here rfl found
    rw [← registered_apply s holder other other.schedule.2] at registered
    by_cases own : holder = .registered id
    next =>
      subst own
      rw [found] at here
      cases here
      exact .keeps app (by simpa using registered) rfl (by simp)
    next =>
      rw [if_neg own] at registered
      exact .keeps app registered rfl (by simp)

theorem meets_advance (found : s.find? (.registered id) = some app) :
    Meets id app s (s.observe .advance) (s.step .advance) := by
  have way := goes_of_advance s
  generalize s.observe .advance = seen, s.step .advance = later at way ⊢
  cases way with
  | still later alike => exact .of_registry alike.registry found (by simp)
  | skips entry later alike => exact .of_registry alike.registry found (by simp)
  | hands event taken later before first after queue =>
    -- Taking the event and waiting again leave the registry alone.
    have here := registered_of_registry before.registry found
    cases meets_handle here (.registered event.application) event with
    | keeps kept present sameState unseen =>
      exact .keeps kept (registered_of_registry after.registry present) sameState unseen
    | handles event result effects present handled only owed =>
      rw [before.running, before.scheduler] at owed
      refine .handles event result effects (registered_of_registry after.registry present) handled
        only ?_
      rw [queue]
      exact owed

theorem meets_quiet {move : Move} (found : s.find? (.registered id) = some app)
    (quiet : move.isQuiet = true) (stays : move ≠ .unregister id) :
    Meets id app s (s.observe move) (s.step move) := by
  have frame := quiet_step s move quiet
  obtain ⟨other, present, sameState⟩ := frame.registered id app stays found
  rw [frame.silent]
  exact .keeps other present sameState (by simp)

theorem meets_step (found : s.find? (.registered id) = some app) (move : Move)
    (stays : move ≠ .unregister id) : Meets id app s (s.observe move) (s.step move) := by
  cases move with
  | handle holder event => exact meets_handle found holder event
  | schedule holder => exact meets_schedule found holder
  | advance => exact meets_advance found
  | dispatch event =>
    have extended := ResourceManager.extends_dispatch s.manager event fun _ => False
    exact .of_registry extended.registry found (by simp [observe])
  | respond response =>
    have extended := ResourceManager.extends_respond s.manager response fun _ => False
    refine .of_registry extended.registry found ?_
    intro before event
    simp only [observe]
    split <;> simp
  | work index =>
    obtain ⟨raised, extended⟩ := ResourceManager.extends_work s.manager index
    exact .of_registry extended.registry found (by simp [observe])
  | _ => exact meets_quiet found rfl stays

theorem Serves.apply (serves : s.Serves) (holder : Holder) (result : Application × List Effect) :
    (s.apply holder result).Serves := by
  have extended := extends_apply s holder result.1 result.2
  have dispatcher := (put_frame s holder result.1).1
  apply serves.of_same
  next =>
    rw [← dispatcher]
    exact extended.running
  next =>
    rw [← dispatcher]
    exact extended.handlers

theorem Serves.handle (serves : s.Serves) (holder : Holder) (event : ApplicationEvent) :
    (s.handle holder event).Serves := by
  rcases handle_cases s holder event with ⟨same, -⟩ | ⟨app, after, effects, -, -, moved, -⟩
  next =>
    rw [same]
    exact serves
  next =>
    rw [moved]
    exact serves.apply holder _

theorem Serves.schedule (serves : s.Serves) (holder : Holder) : (s.schedule holder).Serves := by
  simp only [System.schedule]
  split
  next => exact serves
  next => exact serves.apply holder _

theorem Serves.advance (serves : s.Serves) : (s.step .advance).Serves := by
  have way := goes_of_advance s
  generalize s.observe .advance = seen, s.step .advance = later at way ⊢
  cases way with
  | still later alike => exact serves.of_same alike.running alike.handlers
  | skips entry later alike => exact serves.of_same alike.running alike.handlers
  | hands event taken later before first after =>
    have here := serves.of_same before.running before.handlers
    exact (here.handle _ event).of_same after.running after.handlers

theorem serves_step (serves : s.Serves) (move : Move) (goesOn : move ≠ .stop) :
    (s.step move).Serves := by
  cases move with
  | handle holder event => exact serves.handle holder event
  | schedule holder => exact serves.schedule holder
  | advance => exact serves.advance
  | dispatch event =>
    have extended := ResourceManager.extends_dispatch s.manager event fun _ => False
    exact serves.of_same extended.running extended.handlers
  | respond response =>
    have extended := ResourceManager.extends_respond s.manager response fun _ => False
    exact serves.of_same extended.running extended.handlers
  | work index =>
    obtain ⟨raised, extended⟩ := ResourceManager.extends_work s.manager index
    exact serves.of_same extended.running extended.handlers
  | _ => exact (quiet_step s _ rfl).serves goesOn serves

theorem kept_handle {entry : Entry} (queued : entry ∈ s.queue) (holder : Holder)
    (event : ApplicationEvent) : entry ∈ (s.handle holder event).queue := by
  rcases handle_cases s holder event with ⟨same, -⟩ | ⟨app, after, effects, -, -, moved, -⟩
  next =>
    rw [same]
    exact queued
  next =>
    rw [moved]
    exact kept_apply queued

theorem kept_step {event : Event} (queued : .event event ∈ s.queue) (move : Move)
    (other : move ≠ .advance) : .event event ∈ (s.step move).queue := by
  cases move with
  | advance => exact absurd rfl other
  | handle holder event => exact kept_handle queued holder event
  | schedule holder =>
    simp only [step, schedule]
    split
    next => exact queued
    next => exact kept_apply queued
  | dispatch sent => exact (ResourceManager.extends_dispatch _ sent fun _ => False).kept queued
  | respond response =>
    exact (ResourceManager.extends_respond _ response fun _ => False).kept queued
  | work index =>
    obtain ⟨raised, extended⟩ := ResourceManager.extends_work s.manager index
    exact extended.kept queued
  | _ => exact ((quiet_step s _ rfl).events event).mpr queued

theorem kept_or_handled {event : ApplicationEvent}
    (found : s.find? (.registered event.application) = some app) (serves : s.Serves)
    (legal : app.canHandle event.kind = true)
    (queued : .event (.application event) ∈ s.queue) (move : Move) :
    .event (.application event) ∈ (s.step move).queue ∨
      .handled (.registered event.application) app event ∈ s.observe move := by
  cases move with
  | advance =>
    have way := goes_of_advance s
    generalize s.observe .advance = seen, s.step .advance = later at way ⊢
    cases way with
    | still later alike queue => exact .inl (queue ▸ queued)
    | skips entry later alike first ignored =>
      rw [first] at queued
      cases List.mem_cons.mp queued with
      | inl same =>
        -- The consumer passes over an event for an application only without a handler.
        have handled := serves.2
        rw [ignored event same.symm] at handled
        cases handled
      | inr rest => exact .inl rest
    | hands taken before later alike first after queue =>
      rw [first] at queued
      cases List.mem_cons.mp queued with
      | inl same =>
        cases same
        right
        simp [observeHandle, registered_of_registry alike.registry found, legal]
      | inr rest =>
        left
        rw [queue]
        exact kept_handle rest _ taken
  | _ => exact .inl (kept_step queued _ (by simp))

theorem queued_of_rejection {response : UpdateResponse} {rejection : Rejection} {move : Move}
    (found : s.find? (.registered rejection.application) = some app) (serves : s.Serves)
    (answered : .answered response ∈ s.observe move) (rejected : rejection ∈ response.rejected) :
    .event (.application { application := rejection.application, kind := .reject }) ∈
      (s.step move).queue := by
  have unanswered (t : System) (holder : Holder) (event : ApplicationEvent) :
      .answered response ∉ t.observeHandle holder event := by
    rcases handle_cases t holder event with ⟨-, silent, -⟩ | ⟨_, _, _, -, -, -, seen⟩
    next => simp [silent]
    next => simp [seen]
  cases move with
  | respond given =>
    simp only [observe] at answered
    split at answered
    next receiver =>
      cases List.mem_singleton.mp answered
      obtain ⟨told, known⟩ := Option.isSome_iff_exists.mp receiver
      simp only [step, onManager, ResourceManager.respond, Scheduler.registered, known]
      exact ResourceManager.mem_receive_of_rejected found serves.1 rejected
    next => cases answered
  | handle holder event => exact absurd answered (unanswered s holder event)
  | schedule holder =>
    rcases schedule_cases s holder with
      ⟨-, silent, -⟩ | ⟨other, -, ⟨-, -, seen⟩ | ⟨-, -, seen⟩⟩
    next => simp [observe, silent] at answered
    next =>
      simp only [observe, seen, List.mem_cons, reduceCtorEq, false_or] at answered
      exact absurd answered (unanswered s holder _)
    next => simp [observe, seen] at answered
  | advance =>
    simp only [observe] at answered
    split at answered
    next => exact absurd answered (unanswered s _ _)
    next => cases answered
  | work index => simp [observe] at answered
  | _ => cases answered

end System

end GangScheduling
