import GangScheduling.Proofs.System.Quiet

set_option autoImplicit false

namespace GangScheduling

namespace System

open ResourceManager (Milestone Works)

inductive AppOrigin (s : System) (seen : List Observation) (app : Application) : Prop
  | known (known : s.Known app)
  | handled (holder : Holder) (before : Application) (event : ApplicationEvent)
      (effects : List Effect) (met : .handled holder before event ∈ seen)
      (result : before.handle event = .ok (app, effects))

inductive JobOrigin (s : System) (seen : List Observation) (job : Job) : Prop
  | held (before : job ∈ s.manager.jobs)
  | spawned (holder : Holder) (app after : Application) (event : ApplicationEvent)
      (effects : List Effect) (met : .handled holder app event ∈ seen)
      (result : app.handle event = .ok (after, effects)) (member : .spawn job ∈ effects)
  | goesOn (earlier : Job) (milestone : Option Milestone) (present : earlier ∈ s.manager.jobs)
      (works : Works earlier milestone (some job))
      (met : ∀ reached, milestone = some reached → .worked reached ∈ seen)

structure Origins (s : System) (seen : List Observation) (later : System) : Prop where
  applications : ∀ app ∈ later.applications, AppOrigin s seen app
  jobs : ∀ job ∈ later.manager.jobs, JobOrigin s seen job

variable {s later : System} {seen more : List Observation}

theorem AppOrigin.mono {app : Application} (origin : AppOrigin s seen app)
    (wider : ∀ call ∈ seen, call ∈ more) : AppOrigin s more app := by
  cases origin with
  | known known => exact .known known
  | handled holder before event effects met result =>
    exact .handled holder before event effects (wider _ met) result

theorem JobOrigin.mono {job : Job} (origin : JobOrigin s seen job)
    (wider : ∀ call ∈ seen, call ∈ more) : JobOrigin s more job := by
  cases origin with
  | held before => exact .held before
  | spawned holder app after event effects met result member =>
    exact .spawned holder app after event effects (wider _ met) result member
  | goesOn earlier milestone present works met =>
    exact .goesOn earlier milestone present works fun reached same => wider _ (met reached same)

theorem Origins.mono (origins : Origins s seen later) (wider : ∀ call ∈ seen, call ∈ more) :
    Origins s more later where
  applications app member := (origins.applications app member).mono wider
  jobs job held := (origins.jobs job held).mono wider

theorem Origins.of_same (applications : later.applications = s.applications)
    (jobs : later.manager.jobs = s.manager.jobs) : Origins s seen later where
  applications _ member := .known (.of_mem (applications ▸ member))
  jobs _ held := .held (jobs ▸ held)

theorem origins_handle (s : System) (holder : Holder) (event : ApplicationEvent) :
    Origins s (s.observeHandle holder event) (s.handle holder event) := by
  rcases handle_cases s holder event with
    ⟨same, -⟩ | ⟨app, after, effects, found, result, moved, observed⟩
  next =>
    rw [same]
    exact .of_same rfl rfl
  next =>
    have met : .handled holder app event ∈ s.observeHandle holder event := by simp [observed]
    rw [moved]
    constructor
    next =>
      intro other member
      rw [applications_apply] at member
      cases mem_put member with
      | inl before => exact .known (.of_mem before)
      | inr same => exact .handled holder app event effects met (same ▸ result)
    next =>
      intro job held
      cases mem_jobs_apply held with
      | inl before => exact .held before
      | inr spawned => exact .spawned holder app after event effects met result spawned

theorem origins_schedule (s : System) (holder : Holder) :
    Origins s (s.observeSchedule holder) (s.schedule holder) := by
  rcases schedule_cases s holder with
    ⟨same, -⟩ | ⟨app, found, ⟨-, moved, observed⟩ | ⟨notNew, moved, -⟩⟩
  next =>
    rw [same]
    exact .of_same rfl rfl
  next =>
    rw [moved, observed]
    exact (origins_handle s holder _).mono fun _ => List.mem_cons_of_mem _
  next =>
    rw [moved]
    constructor
    next =>
      intro other member
      rw [applications_apply] at member
      cases mem_put member with
      | inl before => exact .known (.of_mem before)
      | inr same => exact .known (.of_mem (same ▸ mem_of_find? found))
    next =>
      intro job held
      refine .held ((mem_jobs_apply held).resolve_right ?_)
      exact fun spawned => nomatch (Application.schedule_not_new notNew).2 _ spawned

theorem origins_advance (s : System) : Origins s (s.observe .advance) (s.step .advance) := by
  have way := goes_of_advance s
  generalize s.observe .advance = seen, s.step .advance = later at way ⊢
  cases way with
  | still later alike => exact .of_same alike.applications alike.jobs
  | skips entry later alike => exact .of_same alike.applications alike.jobs
  | hands event taken later before first after =>
    have handled := origins_handle taken (.registered event.application) event
    constructor
    next =>
      intro app member
      cases handled.applications app (after.applications ▸ member) with
      | known known =>
        refine .known (known.imp (fun fresh => fresh) ?_)
        rintro ⟨earlier, present, same⟩
        exact ⟨earlier, before.applications ▸ present, same⟩
      | handled holder earlier event effects met result =>
        exact .handled holder earlier event effects met result
    next =>
      intro job held
      cases handled.jobs job (after.jobs ▸ held) with
      | held present => exact .held (before.jobs ▸ present)
      | spawned holder app after event effects met result member =>
        exact .spawned holder app after event effects met result member
      | goesOn earlier milestone present works met =>
        exact .goesOn earlier milestone (before.jobs ▸ present) works met

theorem origins_work (s : System) (index : Nat) :
    Origins s (s.observe (.work index)) (s.step (.work index)) := by
  obtain ⟨raised, extended⟩ := ResourceManager.extends_work s.manager index
  constructor
  next =>
    intro app member
    refine .known (.of_mem ?_)
    have registry : (s.manager.work index).registry = s.manager.registry := extended.registry
    simpa [step, onManager, applications, registry] using member
  next =>
    rcases ResourceManager.work_cases s.manager index with
      ⟨same, -⟩ | ⟨job, jobs, present, own, same, reached, origin⟩
    next =>
      intro job held
      simp only [step, onManager, same] at held
      exact .held held
    next =>
      have works := ResourceManager.works_of_stepJob s.manager own
      intro other held
      simp only [step, onManager, same] at held
      cases origin other held with
      | inl before => exact .held before
      | inr left =>
        refine .goesOn job _ present (left ▸ works) ?_
        intro milestone met
        simp [observe, reached, met]

theorem origins_extends {raised : Event → Prop} {m : ResourceManager}
    (extended : ResourceManager.Extends raised (fun _ => False) s.manager m) :
    Origins s seen { s with manager := m } where
  applications app member := by
    refine .known (.of_mem ?_)
    simpa [applications, extended.registry] using member
  jobs job held := .held ((extended.mem_jobs held).resolve_right id)

theorem origins_quiet {move : Move} (quiet : move.isQuiet = true) :
    Origins s (s.observe move) (s.step move) where
  applications app member := .known ((quiet_step s move quiet).known app member)
  jobs _ held := .held ((quiet_step s move quiet).jobs ▸ held)

theorem origins_step (s : System) (move : Move) :
    Origins s (s.observe move) (s.step move) := by
  cases move with
  | handle holder event => exact origins_handle s holder event
  | schedule holder => exact origins_schedule s holder
  | advance => exact origins_advance s
  | work index => exact origins_work s index
  | dispatch event =>
    exact origins_extends (ResourceManager.extends_dispatch s.manager event _)
  | respond response =>
    exact origins_extends (ResourceManager.extends_respond s.manager response _)
  | _ => exact origins_quiet rfl

inductive EventOrigin (s : System) (seen : List Observation) (event : ApplicationEvent) : Prop
  | waiting (before : .event (.application event) ∈ s.queue)
  | raised (holder : Holder) (app after : Application) (source : ApplicationEvent)
      (effects : List Effect) (met : .handled holder app source ∈ seen)
      (result : app.handle source = .ok (after, effects))
      (raised : ResourceManager.Raised effects (.application event))
  | further (holder : Holder) (app : Application) (met : .scheduled holder app ∈ seen)
      (accepted : app.state = .accepted) (same : event = app.afterAccepted)
  | answered (response : UpdateResponse)
      (answers : ResourceManager.Answers response (.application event))
  | finished (job : Job) (present : job ∈ s.manager.jobs)
      (finishes : ResourceManager.Finishes job (.application event))

section Events

variable {event : ApplicationEvent}

theorem EventOrigin.mono (origin : EventOrigin s seen event)
    (wider : ∀ call ∈ seen, call ∈ more) : EventOrigin s more event := by
  cases origin with
  | waiting before => exact .waiting before
  | raised holder app after source effects met result raised =>
    exact .raised holder app after source effects (wider _ met) result raised
  | further holder app met accepted same => exact .further holder app (wider _ met) accepted same
  | answered response answers => exact .answered response answers
  | finished job present finishes => exact .finished job present finishes

theorem eventOrigin_handle {holder : Holder} {source : ApplicationEvent}
    (queued : .event (.application event) ∈ (s.handle holder source).queue) :
    EventOrigin s (s.observeHandle holder source) event := by
  rcases handle_cases s holder source with
    ⟨same, -⟩ | ⟨app, after, effects, -, result, moved, observed⟩
  next => exact .waiting (same ▸ queued)
  next =>
    rw [moved] at queued
    cases mem_queue_apply queued with
    | inl before => exact .waiting before
    | inr raised => exact .raised holder app after source effects (by simp [observed]) result raised

theorem eventOrigin_schedule {holder : Holder}
    (queued : .event (.application event) ∈ (s.schedule holder).queue) :
    EventOrigin s (s.observeSchedule holder) event := by
  rcases schedule_cases s holder with
    ⟨same, -⟩ | ⟨app, -, ⟨-, moved, observed⟩ | ⟨notNew, moved, observed⟩⟩
  next => exact .waiting (same ▸ queued)
  next =>
    rw [moved] at queued
    rw [observed]
    exact (eventOrigin_handle queued).mono fun _ => List.mem_cons_of_mem _
  next =>
    rw [moved] at queued
    cases mem_queue_apply queued with
    | inl before => exact .waiting before
    | inr raised =>
      cases raised with
      | sent _ member =>
        cases (Application.schedule_not_new notNew).2 _ member with
        | further accepted => exact .further holder app (by simp [observed]) accepted rfl
      | accepted _ member => cases (Application.schedule_not_new notNew).2 _ member
      | refused _ _ member => cases (Application.schedule_not_new notNew).2 _ member

theorem eventOrigin_advance (queued : .event (.application event) ∈ (s.step .advance).queue) :
    EventOrigin s (s.observe .advance) event := by
  have way := goes_of_advance s
  generalize s.observe .advance = seen, s.step .advance = later at way queued ⊢
  cases way with
  | still later alike same => exact .waiting (same ▸ queued)
  | skips entry later alike first => exact .waiting (first ▸ List.mem_cons_of_mem _ queued)
  | hands source taken later before first after same =>
    cases eventOrigin_handle (same ▸ queued) with
    | waiting present => exact .waiting (first ▸ List.mem_cons_of_mem _ present)
    | raised holder app after source effects met result raised =>
      exact .raised holder app after source effects met result raised
    | further holder app met accepted same => exact .further holder app met accepted same
    | answered response answers => exact .answered response answers
    | finished job present finishes => exact .finished job (before.jobs ▸ present) finishes

theorem eventOrigin_work {index : Nat}
    (queued : .event (.application event) ∈ (s.step (.work index)).queue) :
    EventOrigin s seen event := by
  rcases ResourceManager.work_cases s.manager index with
    ⟨same, -⟩ | ⟨job, jobs, present, own, same, -⟩
  next =>
    simp only [step, onManager, same] at queued
    exact .waiting queued
  next =>
    simp only [step, onManager, same] at queued
    have extended := ResourceManager.extends_stepJob s.manager own fun _ => False
    cases extended.mem_queue queued with
    | inl before => exact .waiting before
    | inr finishes => exact .finished job present finishes

theorem eventOrigin_step (move : Move)
    (queued : .event (.application event) ∈ (s.step move).queue) :
    move = .dispatch (.application event) ∨ EventOrigin s (s.observe move) event := by
  cases move with
  | handle holder source => exact .inr (eventOrigin_handle queued)
  | schedule holder => exact .inr (eventOrigin_schedule queued)
  | advance => exact .inr (eventOrigin_advance queued)
  | work index => exact .inr (eventOrigin_work queued)
  | dispatch sent =>
    have extended := ResourceManager.extends_dispatch s.manager sent fun _ => False
    cases extended.mem_queue queued with
    | inl before => exact .inr (.waiting before)
    | inr same => exact .inl (congrArg Move.dispatch same.symm)
  | respond response =>
    have extended := ResourceManager.extends_respond s.manager response fun _ => False
    cases extended.mem_queue queued with
    | inl before => exact .inr (.waiting before)
    | inr answers => exact .inr (.answered response answers)
  | _ => exact .inr (.waiting (((quiet_step s _ rfl).events _).mp queued))

theorem source_of_handled {holder : Holder} {app : Application} {move : Move}
    (met : .handled holder app event ∈ s.observe move) :
    (move = .handle holder event ∧ s.find? holder = some app) ∨
      (.event (.application event) ∈ s.queue ∧ event.application = app.id) ∨
      event = .submit app.id := by
  have handled {taken : System} {source : Holder} {sent : ApplicationEvent}
      (met : .handled holder app event ∈ taken.observeHandle source sent) :
      source = holder ∧ sent = event ∧ taken.find? holder = some app := by
    rcases handle_cases taken source sent with
      ⟨-, silent, -⟩ | ⟨found, after, effects, here, -, -, observed⟩
    next => simp [silent] at met
    next =>
      rw [observed, List.mem_singleton] at met
      cases met
      exact ⟨rfl, rfl, here⟩
  cases move with
  | handle source sent =>
    obtain ⟨rfl, rfl, found⟩ := handled met
    exact .inl ⟨rfl, found⟩
  | schedule source =>
    rcases schedule_cases s source with
      ⟨-, silent, -⟩ | ⟨found, here, ⟨-, -, observed⟩ | ⟨-, -, observed⟩⟩
    next => simp [observe, silent] at met
    next =>
      simp only [observe, observed, List.mem_cons, reduceCtorEq, false_or] at met
      obtain ⟨rfl, rfl, same⟩ := handled met
      cases here.symm.trans same
      exact .inr (.inr rfl)
    next => simp [observe, observed] at met
  | advance =>
    have way := goes_of_advance s
    generalize s.observe .advance = seen, s.step .advance = later at way met
    cases way with
    | still => cases met
    | skips => cases met
    | hands sent taken later before first after =>
      obtain ⟨rfl, rfl, found⟩ := handled met
      exact .inr (.inl ⟨first ▸ List.mem_cons_self, (Registry.id_of_find? found).symm⟩)
  | respond response =>
    simp only [observe] at met
    split at met
    next => cases List.mem_singleton.mp met
    next => cases met
  | work index => simp [observe] at met
  | _ => cases met

end Events

inductive Becomes (app : Application) (seen : List Observation) (later : System) : Prop
  | kept (other : Application) (present : other ∈ later.applications) (sameId : other.id = app.id)
      (sameState : other.state = app.state)
  | handled (holder : Holder) (event : ApplicationEvent) (after : Application)
      (effects : List Effect) (met : .handled holder app event ∈ seen)
      (result : app.handle event = .ok (after, effects)) (present : after ∈ later.applications)

section Fates

variable {app : Application}

theorem Becomes.of_mem (present : app ∈ later.applications) : Becomes app seen later :=
  .kept app present rfl rfl

theorem becomes_handle (member : app ∈ s.applications) (holder : Holder)
    (event : ApplicationEvent) :
    Becomes app (s.observeHandle holder event) (s.handle holder event) := by
  rcases handle_cases s holder event with
    ⟨same, -⟩ | ⟨found, after, effects, here, result, moved, observed⟩
  next =>
    rw [same]
    exact .of_mem member
  next =>
    have sameId := (Application.handle_ok result).2.1
    rw [moved, observed]
    rcases mem_put_of_mem here sameId member with stays | rfl
    next =>
      apply Becomes.of_mem
      rw [applications_apply]
      exact stays
    next =>
      refine .handled holder event after effects List.mem_cons_self result ?_
      rw [applications_apply]
      exact mem_put_self here sameId

theorem Becomes.mono (becomes : Becomes app seen later) (wider : ∀ call ∈ seen, call ∈ more) :
    Becomes app more later := by
  cases becomes with
  | kept other present sameId sameState => exact .kept other present sameId sameState
  | handled holder event after effects met result present =>
    exact .handled holder event after effects (wider _ met) result present

theorem becomes_schedule (member : app ∈ s.applications) (holder : Holder) :
    Becomes app (s.observeSchedule holder) (s.schedule holder) := by
  rcases schedule_cases s holder with
    ⟨same, -⟩ | ⟨found, here, ⟨-, moved, observed⟩ | ⟨-, moved, -⟩⟩
  next =>
    rw [same]
    exact .of_mem member
  next =>
    rw [moved, observed]
    exact (becomes_handle member holder _).mono fun _ => List.mem_cons_of_mem _
  next =>
    apply Becomes.of_mem
    rw [moved, applications_apply]
    rcases mem_put_of_mem here rfl member with stays | rfl
    next => exact stays
    next => exact mem_put_self here rfl

theorem becomes_advance (member : app ∈ s.applications) :
    Becomes app (s.observe .advance) (s.step .advance) := by
  have way := goes_of_advance s
  generalize s.observe .advance = seen, s.step .advance = later at way ⊢
  cases way with
  | still later alike => exact .of_mem (alike.applications ▸ member)
  | skips entry later alike => exact .of_mem (alike.applications ▸ member)
  | hands event taken later before first after =>
    cases becomes_handle (before.applications ▸ member) (.registered event.application) event with
    | kept other present sameId sameState =>
      exact .kept other (after.applications ▸ present) sameId sameState
    | handled holder event result effects met outcome present =>
      exact .handled holder event result effects met outcome (after.applications ▸ present)

theorem becomes_quiet {move : Move} (member : app ∈ s.applications)
    (quiet : move.isQuiet = true) : Becomes app (s.observe move) (s.step move) := by
  obtain ⟨other, present, sameId, sameState⟩ := (quiet_step s move quiet).kept app member
  exact .kept other present sameId sameState

theorem becomes_step (member : app ∈ s.applications) (move : Move) :
    Becomes app (s.observe move) (s.step move) := by
  have extended {m : ResourceManager} (registry : m.registry = s.manager.registry) :
      app ∈ ({ s with manager := m } : System).applications := by
    simpa [applications, registry] using member
  cases move with
  | handle holder event => exact becomes_handle member holder event
  | schedule holder => exact becomes_schedule member holder
  | advance => exact becomes_advance member
  | work index =>
    obtain ⟨raised, work⟩ := ResourceManager.extends_work s.manager index
    exact .of_mem (extended work.registry)
  | dispatch event =>
    have sent := ResourceManager.extends_dispatch s.manager event fun _ => False
    exact .of_mem (extended sent.registry)
  | respond response =>
    have answered := ResourceManager.extends_respond s.manager response fun _ => False
    exact .of_mem (extended answered.registry)
  | _ => exact becomes_quiet member rfl

end Fates

end System

end GangScheduling
