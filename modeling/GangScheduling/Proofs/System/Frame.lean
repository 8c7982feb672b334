import GangScheduling.Proofs.System.Basic

set_option autoImplicit false

namespace GangScheduling

theorem filter_own {A B : Type} [DecidableEq B] (belongs : A → B) {items : List A} {own : B}
    (all : ∀ item ∈ items, belongs item = own) (key : B) :
    items.filter (fun item => belongs item = key) = if key = own then items else [] := by
  split
  next same =>
    rw [List.filter_eq_self]
    intro item listed
    simp [all item listed, same]
  next other =>
    rw [List.filter_eq_nil_iff]
    intro item listed
    simp [all item listed, Ne.symm other]

namespace System

variable {s : System} {holder : Holder} {app after : Application} {effects : List Effect}

theorem mem_of_find? (found : s.find? holder = some app) : app ∈ s.applications := by
  cases holder with
  | registered id => exact List.mem_append_left _ (Registry.mem_of_find? found)
  | apart index => exact List.mem_append_right _ (List.mem_of_getElem? found)

theorem put_frame (s : System) (holder : Holder) (app : Application) :
    (s.put holder app).manager.dispatcher = s.manager.dispatcher ∧
      (s.put holder app).manager.jobs = s.manager.jobs ∧
      (s.put holder app).manager.scheduler = s.manager.scheduler := by
  cases holder <;> exact ⟨rfl, rfl, rfl⟩

theorem mem_put {other : Application} (member : other ∈ (s.put holder after).applications) :
    other ∈ s.applications ∨ other = after := by
  cases holder with
  | registered id =>
    cases List.mem_append.mp member with
    | inl registered =>
      cases Registry.mem_modify registered with
      | inl before => exact .inl (List.mem_append_left _ before)
      | inr changed =>
        obtain ⟨before, -, -, rfl⟩ := changed
        exact .inr rfl
    | inr held => exact .inl (List.mem_append_right _ held)
  | apart index =>
    cases List.mem_append.mp member with
    | inl registered => exact .inl (List.mem_append_left _ registered)
    | inr held =>
      exact (List.mem_or_eq_of_mem_set held).imp (List.mem_append_right _) id

theorem mem_put_self (found : s.find? holder = some app) (sameId : after.id = app.id) :
    after ∈ (s.put holder after).applications := by
  cases holder with
  | registered id =>
    refine List.mem_append_left _ (List.mem_map.mpr ⟨app, Registry.mem_of_find? found, ?_⟩)
    simp [← sameId]
  | apart index =>
    have taken : s.apart[index]? = some app := found
    exact List.mem_append_right _ (List.mem_set (List.getElem?_eq_some_iff.mp taken).1 after)

theorem mem_put_of_mem {other : Application} (found : s.find? holder = some app)
    (sameId : after.id = app.id) (member : other ∈ s.applications) :
    other ∈ (s.put holder after).applications ∨ other = app := by
  cases holder with
  | registered id =>
    cases List.mem_append.mp member with
    | inl registered =>
      exact (Registry.mem_modify_of_mem (Registry.mem_of_find? found) sameId registered).imp_left
        (List.mem_append_left _)
    | inr held => exact .inl (List.mem_append_right _ held)
  | apart index =>
    cases List.mem_append.mp member with
    | inl registered => exact .inl (List.mem_append_left _ registered)
    | inr held =>
      have taken : s.apart[index]? = some app := found
      obtain ⟨place, here⟩ := List.mem_iff_getElem?.mp held
      by_cases same : place = index
      next =>
        subst same
        exact .inr (Option.some.inj (here.symm.trans taken))
      next =>
        refine .inl (List.mem_append_right _ ?_)
        change other ∈ s.apart.set index after
        refine List.mem_iff_getElem?.mpr ⟨place, ?_⟩
        rw [List.getElem?_set_ne (Ne.symm same)]
        exact here

theorem registered_put {id : String} {current : Application} (found : s.find? holder = some app)
    (sameId : after.id = app.id) (registered : s.find? (.registered id) = some current) :
    (s.put holder after).find? (.registered id) =
      if holder = .registered id then some after else some current := by
  cases holder with
  | registered key =>
    have own : after.id = key := sameId.trans (Registry.id_of_find? found)
    simp only [find?, put, ResourceManager.update, Registry.find?_modify, own,
      Holder.registered.injEq]
    by_cases same : key = id
    next =>
      -- The look-up finds the application that took the place, under the id that it kept.
      subst same
      have here : s.manager.registry.find? key = some app := found
      simp [here, ← sameId]
    next =>
      have other : id ≠ key := fun h => same h.symm
      rw [if_neg other, if_neg same]
      exact registered
  | apart index =>
    rw [if_neg (by simp)]
    exact registered

theorem extends_apply (s : System) (holder : Holder) (after : Application)
    (effects : List Effect) :
    ResourceManager.Extends (ResourceManager.Raised effects) (fun job => .spawn job ∈ effects)
      (s.put holder after).manager (s.apply holder (after, effects)).manager :=
  ResourceManager.extends_performAll _ effects

theorem applications_apply (s : System) (holder : Holder) (after : Application)
    (effects : List Effect) :
    (s.apply holder (after, effects)).applications = (s.put holder after).applications := by
  have same := (extends_apply s holder after effects).registry
  simp only [apply] at same
  simp only [applications, apply, same]

theorem registered_apply (s : System) (holder : Holder) (after : Application)
    (effects : List Effect) (id : String) :
    (s.apply holder (after, effects)).find? (.registered id) =
      (s.put holder after).find? (.registered id) := by
  simp only [find?, (extends_apply s holder after effects).registry]

theorem mem_queue_apply {event : Event}
    (queued : .event event ∈ (s.apply holder (after, effects)).queue) :
    .event event ∈ s.queue ∨ ResourceManager.Raised effects event := by
  have h := (extends_apply s holder after effects).mem_queue queued
  rwa [(put_frame s holder after).1] at h

theorem kept_apply {entry : Entry} (queued : entry ∈ s.queue) :
    entry ∈ (s.apply holder (after, effects)).queue := by
  apply (extends_apply s holder after effects).kept
  rwa [(put_frame s holder after).1]

theorem mem_jobs_apply {job : Job} (held : job ∈ (s.apply holder (after, effects)).manager.jobs) :
    job ∈ s.manager.jobs ∨ .spawn job ∈ effects := by
  have h := (extends_apply s holder after effects).mem_jobs held
  rwa [(put_frame s holder after).2.1] at h

theorem handle_cases (s : System) (holder : Holder) (event : ApplicationEvent) :
    (s.handle holder event = s ∧ s.observeHandle holder event = [] ∧
        ∀ app, s.find? holder = some app → app.canHandle event.kind = false) ∨
      ∃ app after effects, s.find? holder = some app ∧ app.handle event = .ok (after, effects) ∧
        s.handle holder event = s.apply holder (after, effects) ∧
        s.observeHandle holder event = [.handled holder app event] := by
  cases found : s.find? holder with
  | none => exact .inl ⟨by simp [handle, found], by simp [observeHandle, found], by simp⟩
  | some app =>
    cases handled : app.handle event with
    | ok result =>
      obtain ⟨after, effects⟩ := result
      have legal := Application.canHandle_of_handle handled
      exact .inr ⟨app, after, effects, rfl, handled, by simp [handle, found, handled],
        by simp [observeHandle, found, legal]⟩
    | error fault =>
      have illegal := Application.illegal_of_handle handled
      refine .inl ⟨by simp [handle, found, handled], by simp [observeHandle, found, illegal], ?_⟩
      rintro _ ⟨⟩
      exact illegal

theorem schedule_cases (s : System) (holder : Holder) :
    (s.schedule holder = s ∧ s.observeSchedule holder = [] ∧ s.find? holder = none) ∨
      ∃ app, s.find? holder = some app ∧
        ((app.state = .new ∧ s.schedule holder = s.handle holder (.submit app.id) ∧
            s.observeSchedule holder =
              .scheduled holder app :: s.observeHandle holder (.submit app.id)) ∨
          (app.state ≠ .new ∧ s.schedule holder = s.apply holder (app, app.schedule.2) ∧
            s.observeSchedule holder = [.scheduled holder app])) := by
  cases found : s.find? holder with
  | none => exact .inl ⟨by simp [schedule, found], by simp [observeSchedule, found], rfl⟩
  | some app =>
    refine .inr ⟨app, rfl, ?_⟩
    by_cases fresh : app.state = .new
    next =>
      refine .inl ⟨fresh, ?_, by simp [observeSchedule, found, fresh]⟩
      simp [schedule, handle, found, Application.schedule_new fresh]
    next =>
      refine .inr ⟨fresh, ?_, by simp [observeSchedule, found, fresh]⟩
      have same := (Application.schedule_not_new fresh).1
      have pair : app.schedule = (app, app.schedule.2) := Prod.ext same rfl
      simp only [schedule, found]
      exact congrArg (s.apply holder) pair

theorem deliver_application (s : System) (event : ApplicationEvent) :
    ∃ notices, s.manager.deliver (.application event) =
      { (s.handle (.registered event.application) event).manager with notices } := by
  simp only [ResourceManager.deliver, ResourceManager.handle, Registry.lookup, handle, find?]
  cases s.manager.registry.find? event.application with
  | none => exact ⟨_, rfl⟩
  | some app =>
    cases handled : app.handle event with
    | ok result => 
      simp only [handled]
      exact ⟨_, rfl⟩
    | error fault => 
      simp only [handled]
      exact ⟨_, rfl⟩

structure Alike (s later : System) : Prop where
  registry : later.manager.registry = s.manager.registry
  apart : later.apart = s.apart
  scheduler : later.manager.scheduler = s.manager.scheduler
  jobs : later.manager.jobs = s.manager.jobs
  running : later.manager.dispatcher.running = s.manager.dispatcher.running
  handlers : later.manager.dispatcher.handlers = s.manager.dispatcher.handlers

theorem Alike.applications {later : System} (alike : Alike s later) :
    later.applications = s.applications := by
  simp only [System.applications, alike.registry, alike.apart]

theorem apart_handle (s : System) (id : String) (event : ApplicationEvent) :
    (s.handle (.registered id) event).apart = s.apart := by
  rcases handle_cases s (.registered id) event with ⟨same, -⟩ | ⟨app, after, effects, -, -, same, -⟩
  next => rw [same]
  next =>
    rw [same]
    rfl

/-- The ways in which the consumer goes on. Handing over an application event is a call of its
handler between taking the event from the queue and waiting again. -/
inductive Goes (s : System) : List Observation → System → Prop
  | still (later : System) (alike : Alike s later) (queue : later.queue = s.queue) : Goes s [] later
  | skips (entry : Entry) (later : System) (alike : Alike s later)
      (first : s.queue = entry :: later.queue)
      (ignored : ∀ event, entry = .event (.application event) →
        s.manager.dispatcher.handler? .application = none) : Goes s [] later
  | hands (event : ApplicationEvent) (taken later : System) (before : Alike s taken)
      (first : s.queue = .event (.application event) :: taken.queue)
      (after : Alike (taken.handle (.registered event.application) event) later)
      (queue : later.queue = (taken.handle (.registered event.application) event).queue) :
      Goes s (taken.observeHandle (.registered event.application) event) later

theorem goes_of_advance (s : System) : Goes s (s.observe .advance) (s.step .advance) := by
  simp only [observe, step, onManager]
  cases advanced : s.manager.advance fun _ => false with
  | none =>
    rw [ResourceManager.delivery?_of_idle advanced]
    exact .still _ ⟨rfl, rfl, rfl, rfl, rfl, rfl⟩ rfl
  | some later =>
    have way := ResourceManager.advances_of_advance advanced
    generalize s.manager.delivery? = delivery at way
    cases way with
    | left consumer => exact .still _ ⟨rfl, rfl, rfl, rfl, rfl, rfl⟩ rfl
    | passed entry dispatcher notices first running handlers ignored =>
      refine .skips entry _ ⟨rfl, rfl, rfl, rfl, running, handlers⟩ first ?_
      intro event same
      exact ignored (.application event) same
    | delivered event dispatcher consumer first running handlers =>
      cases event with
      | task event =>
        refine .skips _ _ ⟨rfl, rfl, rfl, rfl, running, handlers⟩ first ?_
        rintro _ ⟨⟩
      | application event =>
        -- The handler runs on the state from which the event was taken.
        let taken : System := { s with manager := { s.manager with dispatcher } }
        obtain ⟨notices, delivered⟩ := deliver_application taken event
        have same : { s.manager with dispatcher }.deliver (.application event) =
            { (taken.handle (.registered event.application) event).manager with notices } :=
          delivered
        have apart : (taken.handle (.registered event.application) event).apart = taken.apart :=
          apart_handle taken event.application event
        simp only [Option.getD_some, same]
        exact .hands event taken _ ⟨rfl, rfl, rfl, rfl, running, handlers⟩ first
          ⟨rfl, apart.symm, rfl, rfl, rfl, rfl⟩ rfl

theorem subject_mem {call : Observation} {app : Application} {move : Move}
    (seen : call ∈ s.observe move) (subject : call.subject? = some app) :
    app ∈ s.applications := by
  have handled (holder : Holder) (event : ApplicationEvent)
      (seen : call ∈ s.observeHandle holder event) : app ∈ s.applications := by
    rcases handle_cases s holder event with
      ⟨-, silent, -⟩ | ⟨other, after, effects, found, -, -, same⟩
    next =>
      rw [silent] at seen
      cases seen
    next =>
      rw [same, List.mem_singleton] at seen
      subst seen
      cases subject
      exact mem_of_find? found
  cases move with
  | handle holder event => exact handled holder event seen
  | schedule holder =>
    rcases schedule_cases s holder with
      ⟨-, silent, -⟩ | ⟨other, found, ⟨-, -, same⟩ | ⟨-, -, same⟩⟩
    next =>
      simp only [observe, silent] at seen
      cases seen
    next =>
      simp only [observe, same, List.mem_cons] at seen
      rcases seen with rfl | later
      next =>
        cases subject
        exact mem_of_find? found
      next => exact handled holder _ later
    next =>
      simp only [observe, same, List.mem_singleton] at seen
      subst seen
      cases subject
      exact mem_of_find? found
  | advance =>
    simp only [observe] at seen
    split at seen
    next event _ => exact handled _ event seen
    next => cases seen
  | respond response =>
    simp only [observe] at seen
    split at seen
    next =>
      cases List.mem_singleton.mp seen
      cases subject
    next => cases seen
  | work index =>
    obtain ⟨milestone, -, rfl⟩ := List.mem_map.mp seen
    cases subject
  | _ => cases seen

theorem mem_observed {call : Observation} {moves : List Move} (seen : call ∈ s.observed moves) :
    ∃ before move after, moves = before ++ move :: after ∧ call ∈ (s.run before).observe move := by
  induction moves generalizing s with
  | nil => cases seen
  | cons move rest ih =>
    cases List.mem_append.mp seen with
    | inl first => exact ⟨[], move, rest, rfl, first⟩
    | inr further =>
      obtain ⟨before, last, after, split, present⟩ := ih further
      exact ⟨move :: before, last, after, congrArg (move :: ·) split, present⟩

end System

end GangScheduling
