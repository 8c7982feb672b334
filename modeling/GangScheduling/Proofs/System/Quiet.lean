import GangScheduling.Proofs.System.Frame

set_option autoImplicit false

namespace GangScheduling

namespace System

variable {s later : System}

def Known (s : System) (app : Application) : Prop :=
  app.state = .new ∨ ∃ before ∈ s.applications, before.id = app.id ∧ before.state = app.state

def Serves (s : System) : Prop :=
  s.manager.dispatcher.running = true ∧
    (s.manager.dispatcher.handler? .application).isSome = true

theorem Known.of_mem {app : Application} (member : app ∈ s.applications) : s.Known app :=
  .inr ⟨app, member, rfl, rfl⟩

theorem Serves.of_same (serves : s.Serves)
    (running : later.manager.dispatcher.running = s.manager.dispatcher.running)
    (handlers : later.manager.dispatcher.handlers = s.manager.dispatcher.handlers) :
    later.Serves := by
  refine ⟨running.trans serves.1, ?_⟩
  rw [Dispatcher.handler?, handlers]
  exact serves.2

def Move.isQuiet : Move → Bool
  | .handle .. | .schedule _ | .dispatch _ | .respond _ | .advance | .work _ => false
  | _ => true

structure Quiet (s : System) (move : Move) : Prop where
  known : ∀ app ∈ (s.step move).applications, s.Known app
  kept : ∀ app ∈ s.applications,
    ∃ other ∈ (s.step move).applications, other.id = app.id ∧ other.state = app.state
  registered : ∀ id app, move ≠ .unregister id → s.find? (.registered id) = some app →
    ∃ other, (s.step move).find? (.registered id) = some other ∧ other.state = app.state
  events : ∀ event, .event event ∈ (s.step move).queue ↔ .event event ∈ s.queue
  jobs : (s.step move).manager.jobs = s.manager.jobs
  serves : move ≠ .stop → s.Serves → (s.step move).Serves
  silent : s.observe move = []

theorem quiet_of_same {move : Move}
    (registry : (s.step move).manager.registry = s.manager.registry)
    (apart : (s.step move).apart = s.apart)
    (events : ∀ event, .event event ∈ (s.step move).queue ↔ .event event ∈ s.queue)
    (jobs : (s.step move).manager.jobs = s.manager.jobs)
    (serves : move ≠ .stop → s.Serves → (s.step move).Serves) (silent : s.observe move = []) :
    Quiet s move where
  known app member := by
    rw [applications, registry, apart] at member
    exact .of_mem member
  kept app member := by
    refine ⟨app, ?_, rfl, rfl⟩
    rw [applications, registry, apart]
    exact member
  registered id app _ found := by
    refine ⟨app, ?_, rfl⟩
    rw [find?, registry]
    exact found
  events := events
  jobs := jobs
  serves := serves
  silent := silent

theorem quiet_of_unchanged {move : Move} (same : s.step move = s) (silent : s.observe move = []) :
    Quiet s move := by
  apply quiet_of_same
  next => rw [same]
  next => rw [same]
  next =>
    intro event
    rw [same]
  next => rw [same]
  next =>
    intro _ serves
    rw [same]
    exact serves
  next => exact silent

theorem quiet_create (s : System) (manifest : Manifest) : Quiet s (.create manifest) where
  known app member := by
    simp only [step, applications, List.mem_append, List.mem_singleton] at member
    rcases member with registered | held | rfl
    next => exact .of_mem (List.mem_append_left _ registered)
    next => exact .of_mem (List.mem_append_right _ held)
    next => exact .inl manifest.state_application
  kept app member := by
    refine ⟨app, ?_, rfl, rfl⟩
    simp only [step, applications, ← List.append_assoc]
    exact List.mem_append_left _ member
  registered id app _ found := ⟨app, found, rfl⟩
  events event := Iff.rfl
  jobs := rfl
  serves _ serves := serves
  silent := rfl

theorem quiet_register (s : System) (manifest : Manifest) : Quiet s (.register manifest) where
  known app member := by
    cases List.mem_append.mp member with
    | inl registered =>
      cases Registry.mem_insert registered with
      | inl before => exact .of_mem (List.mem_append_left _ before)
      | inr added => exact .inl (added ▸ manifest.state_application)
    | inr held => exact .of_mem (List.mem_append_right _ held)
  kept app member := by
    refine ⟨app, ?_, rfl, rfl⟩
    cases List.mem_append.mp member with
    | inl registered => exact List.mem_append_left _ (Registry.mem_insert_of_mem registered _)
    | inr held => exact List.mem_append_right _ held
  registered id app _ found := ⟨app, Registry.find?_insert_of_some found _, rfl⟩
  events event := Iff.rfl
  jobs := rfl
  serves _ serves := serves
  silent := rfl

theorem quiet_unregister (s : System) (key : String) : Quiet s (.unregister key) := by
  cases found : s.manager.registry.find? key with
  | none => exact quiet_of_unchanged (by simp [step, unregister, found]) rfl
  | some removed =>
    have taken : s.step (.unregister key) =
        { manager := { s.manager with registry := s.manager.registry.remove key }
          apart := s.apart ++ [removed] } := by simp [step, unregister, found]
    exact
      { known := by
          intro app member
          rw [taken] at member
          simp only [applications, List.mem_append, List.mem_singleton] at member
          rcases member with registered | held | rfl
          next => exact .of_mem (List.mem_append_left _ (Registry.mem_remove registered))
          next => exact .of_mem (List.mem_append_right _ held)
          next => exact .of_mem (List.mem_append_left _ (Registry.mem_of_find? found))
        kept := by
          intro app member
          refine ⟨app, ?_, rfl, rfl⟩
          rw [taken]
          simp only [applications, List.mem_append, List.mem_singleton] at member ⊢
          cases member with
          | inl registered =>
            exact (Registry.mem_remove_or_eq found registered).imp_right .inr
          | inr held => exact .inr (.inl held)
        registered := by
          intro id app stays present
          have other : id ≠ key := fun same => stays (congrArg Move.unregister same.symm)
          rw [taken]
          exact ⟨app, (Registry.find?_remove_of_ne other).trans present, rfl⟩
        events := fun event => by rw [taken]; rfl
        jobs := by rw [taken]
        serves := fun _ serves => by rw [taken]; exact serves
        silent := rfl }

theorem quiet_edit (s : System) (holder : Holder) (edit : Edit) : Quiet s (.edit holder edit) := by
  cases found : s.find? holder with
  | none => exact quiet_of_unchanged (by simp [step, found]) rfl
  | some edited =>
    obtain ⟨sameId, sameState⟩ := edited.edit_frame edit
    obtain ⟨dispatcher, jobs, -⟩ := put_frame s holder (edited.edit edit)
    have placed : s.step (.edit holder edit) = s.put holder (edited.edit edit) := by
      simp [step, found]
    exact
      { known := by
          intro app member
          rw [placed] at member
          cases mem_put member with
          | inl before => exact .of_mem before
          | inr same =>
            subst same
            exact .inr ⟨edited, mem_of_find? found, sameId.symm, sameState.symm⟩
        kept := by
          intro app member
          rw [placed]
          rcases mem_put_of_mem found sameId member with stays | rfl
          next => exact ⟨app, stays, rfl, rfl⟩
          next => exact ⟨_, mem_put_self found sameId, sameId, sameState⟩
        registered := by
          intro id app _ present
          rw [placed, registered_put found sameId present]
          split
          next own =>
            subst own
            cases found.symm.trans present
            exact ⟨_, rfl, sameState⟩
          next => exact ⟨app, rfl, rfl⟩
        events := fun event => by rw [placed, queue, dispatcher, queue]
        jobs := by rw [placed, jobs]
        serves := fun _ serves => by
          rw [placed]
          exact serves.of_same (by rw [dispatcher]) (by rw [dispatcher])
        silent := rfl }

theorem quiet_install (s : System) : Quiet s .install := by
  refine quiet_of_same rfl rfl ?_ rfl ?_ rfl
  next =>
    intro event
    simp only [step, onManager, queue, ResourceManager.registerHandlers]
    split <;> exact Iff.rfl
  next =>
    intro _ serves
    simp only [Serves, step, onManager, ResourceManager.registerHandlers]
    refine ⟨?_, ?_⟩
    next => split <;> exact serves.1
    next => split <;> simp [Dispatcher.handler?, Dispatcher.register]

theorem quiet_start (s : System) : Quiet s .start := by
  obtain ⟨dispatcher, notices, started, queue, handlers, running⟩ :=
    s.manager.startDispatcher_frame
  have same : s.step .start = { s with manager := { s.manager with dispatcher, notices } } :=
    congrArg (fun manager => { s with manager }) started
  refine quiet_of_same ?_ ?_ ?_ ?_ ?_ rfl
  next => rw [same]
  next => rw [same]
  next =>
    intro event
    rw [same]
    change _ ∈ dispatcher.queue ↔ _
    rw [queue]
    rfl
  next => rw [same]
  next =>
    intro _ serves
    rw [same]
    exact serves.of_same ((running serves.1).trans serves.1.symm) handlers

theorem quiet_stop (s : System) : Quiet s .stop := by
  refine quiet_of_same rfl rfl ?_ rfl ?_ rfl
  next =>
    intro event
    simp only [step, onManager, queue, Dispatcher.stop]
    split
    next => simp
    next => exact Iff.rfl
  next => exact fun goesOn => absurd rfl goesOn

theorem quiet_step (s : System) (move : Move) (quiet : move.isQuiet = true) : Quiet s move := by
  cases move with
  | create manifest => exact quiet_create s manifest
  | register manifest => exact quiet_register s manifest
  | unregister key => exact quiet_unregister s key
  | edit holder edit => exact quiet_edit s holder edit
  | install => exact quiet_install s
  | start => exact quiet_start s
  | stop => exact quiet_stop s
  | replaceScheduler scheduler =>
    exact quiet_of_same rfl rfl (fun _ => Iff.rfl) rfl (fun _ serves => serves) rfl
  | replaceClient client =>
    exact quiet_of_same rfl rfl (fun _ => Iff.rfl) rfl (fun _ serves => serves) rfl
  | _ => cases quiet

end System

end GangScheduling
