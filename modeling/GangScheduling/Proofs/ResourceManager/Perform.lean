import GangScheduling.Proofs.Dispatcher.Step
import GangScheduling.ResourceManager

set_option autoImplicit false

namespace GangScheduling

namespace ResourceManager

/-- A later state, with what was added to the queue and to the background work in between. -/
structure Extends (raised : Event → Prop) (spawned : Job → Prop) (m next : ResourceManager) :
    Prop where
  registry : next.registry = m.registry
  running : next.dispatcher.running = m.dispatcher.running
  consumers : next.dispatcher.consumers = m.dispatcher.consumers
  handlers : next.dispatcher.handlers = m.dispatcher.handlers
  failure : next.scheduler.failure = m.scheduler.failure
  queue : ∃ events : List Event, next.dispatcher.queue = m.dispatcher.queue ++ events.map .event ∧
    ∀ event ∈ events, raised event
  jobs : ∃ jobs : List Job, next.jobs = m.jobs ++ jobs ∧ ∀ job ∈ jobs, spawned job

namespace Extends

variable {raised more : Event → Prop} {spawned others : Job → Prop} {m middle next : ResourceManager}

theorem refl (raised : Event → Prop) (spawned : Job → Prop) (m : ResourceManager) :
    Extends raised spawned m m where
  registry := rfl
  running := rfl
  consumers := rfl
  handlers := rfl
  failure := rfl
  queue := ⟨[], by simp⟩
  jobs := ⟨[], by simp⟩

theorem trans (first : Extends raised spawned m middle) (second : Extends raised spawned middle next) :
    Extends raised spawned m next where
  registry := second.registry.trans first.registry
  running := second.running.trans first.running
  consumers := second.consumers.trans first.consumers
  handlers := second.handlers.trans first.handlers
  failure := second.failure.trans first.failure
  queue := by
    obtain ⟨events, queued, wereRaised⟩ := first.queue
    obtain ⟨later, queuedLater, wereRaisedLater⟩ := second.queue
    refine ⟨events ++ later, by rw [queuedLater, queued, List.map_append, List.append_assoc], ?_⟩
    intro event member
    exact (List.mem_append.mp member).elim (wereRaised event) (wereRaisedLater event)
  jobs := by
    obtain ⟨jobs, held, wereSpawned⟩ := first.jobs
    obtain ⟨later, heldLater, wereSpawnedLater⟩ := second.jobs
    refine ⟨jobs ++ later, by rw [heldLater, held, List.append_assoc], ?_⟩
    intro job member
    exact (List.mem_append.mp member).elim (wereSpawned job) (wereSpawnedLater job)

theorem mono (extended : Extends raised spawned m next)
    (wider : ∀ event, raised event → more event) (freer : ∀ job, spawned job → others job) :
    Extends more others m next where
  registry := extended.registry
  running := extended.running
  consumers := extended.consumers
  handlers := extended.handlers
  failure := extended.failure
  queue := by
    obtain ⟨events, queued, wereRaised⟩ := extended.queue
    exact ⟨events, queued, fun event member => wider event (wereRaised event member)⟩
  jobs := by
    obtain ⟨jobs, held, wereSpawned⟩ := extended.jobs
    exact ⟨jobs, held, fun job member => freer job (wereSpawned job member)⟩

theorem mem_queue (extended : Extends raised spawned m next) {event : Event}
    (queued : .event event ∈ next.dispatcher.queue) :
    .event event ∈ m.dispatcher.queue ∨ raised event := by
  obtain ⟨events, same, wereRaised⟩ := extended.queue
  rw [same, List.mem_append] at queued
  cases queued with
  | inl before => exact .inl before
  | inr added =>
    obtain ⟨found, member, equal⟩ := List.mem_map.mp added
    cases equal
    exact .inr (wereRaised event member)

theorem mem_jobs (extended : Extends raised spawned m next) {job : Job} (held : job ∈ next.jobs) :
    job ∈ m.jobs ∨ spawned job := by
  obtain ⟨jobs, same, wereSpawned⟩ := extended.jobs
  rw [same, List.mem_append] at held
  exact held.imp id (wereSpawned job)

theorem kept (extended : Extends raised spawned m next) {entry : Entry}
    (queued : entry ∈ m.dispatcher.queue) : entry ∈ next.dispatcher.queue := by
  obtain ⟨events, same, -⟩ := extended.queue
  rw [same]
  exact List.mem_append_left _ queued

end Extends

theorem extends_note (m : ResourceManager) (notices : List Notice) (raised : Event → Prop)
    (spawned : Job → Prop) : Extends raised spawned m (m.note notices) :=
  { Extends.refl raised spawned m with }

theorem dispatch_running {m : ResourceManager} (running : m.dispatcher.running = true)
    (event : Event) :
    (m.dispatch event).dispatcher = (m.dispatcher.enqueue event).checkBacklog.1 := by
  simp [dispatch, note, Dispatcher.dispatch, running]

theorem dispatch_stopped {m : ResourceManager} (stopped : m.dispatcher.running = false)
    (event : Event) :
    (m.dispatch event).dispatcher = { m.dispatcher with dropped := m.dispatcher.dropped + 1 } := by
  simp [dispatch, note, Dispatcher.dispatch, stopped]

theorem extends_dispatch (m : ResourceManager) (event : Event) (spawned : Job → Prop) :
    Extends (· = event) spawned m (m.dispatch event) := by
  cases running : m.dispatcher.running with
  | true =>
    obtain ⟨runs, alive, -, queue, handlers⟩ :=
      Dispatcher.checkBacklog_frame (m.dispatcher.enqueue event)
    rw [← dispatch_running running] at runs alive queue handlers
    exact
      { registry := rfl
        running := runs
        consumers := alive
        handlers
        failure := rfl
        queue := ⟨[event], queue, by simp⟩
        jobs := ⟨[], (List.append_nil m.jobs).symm, by simp⟩ }
  | false =>
    have after := dispatch_stopped running event
    exact
      { registry := rfl
        running := by rw [after]
        consumers := by rw [after]
        handlers := by rw [after]
        failure := rfl
        queue := ⟨[], by simp [after]⟩
        jobs := ⟨[], (List.append_nil m.jobs).symm, by simp⟩ }

theorem mem_dispatch {m : ResourceManager} (running : m.dispatcher.running = true) (event : Event) :
    .event event ∈ (m.dispatch event).dispatcher.queue := by
  obtain ⟨-, -, -, queue, -⟩ := Dispatcher.checkBacklog_frame (m.dispatcher.enqueue event)
  rw [dispatch_running running, queue]
  exact List.mem_append_right _ List.mem_cons_self

theorem extends_announce (m : ResourceManager) (kind : EventKind) (id : String)
    (spawned : Job → Prop) :
    Extends (· = .application { application := id, kind }) spawned m (m.announce kind id) := by
  unfold announce
  split
  next => exact extends_dispatch m _ spawned
  next => exact extends_note m _ _ spawned

theorem mem_announce {m : ResourceManager} {id : String} {app : Application} (kind : EventKind)
    (found : m.registry.find? id = some app) (running : m.dispatcher.running = true) :
    .event (.application { application := id, kind }) ∈ (m.announce kind id).dispatcher.queue := by
  unfold announce
  rw [found]
  exact mem_dispatch running _

inductive Answers (response : UpdateResponse) : Event → Prop
  | accept (id : String) (accepted : id ∈ response.accepted) :
      Answers response (.application { application := id, kind := .accept })
  | reject (rejection : Rejection) (rejected : rejection ∈ response.rejected) :
      Answers response (.application { application := rejection.application, kind := .reject })

theorem extends_foldl {A : Type} {raised : Event → Prop} {spawned : Job → Prop}
    {step : ResourceManager → A → ResourceManager} (items : List A)
    (extended : ∀ m, ∀ item ∈ items, Extends raised spawned m (step m item)) (m : ResourceManager) :
    Extends raised spawned m (items.foldl step m) := by
  induction items generalizing m with
  | nil => exact .refl raised spawned m
  | cons item rest ih =>
    refine (extended m item List.mem_cons_self).trans ?_
    exact ih (fun m later member => extended m later (List.mem_cons_of_mem _ member)) _

theorem extends_accepted (m : ResourceManager) (response : UpdateResponse)
    (spawned : Job → Prop) :
    Extends (Answers response) spawned m
      (response.accepted.foldl (fun m id => m.announce .accept id) m) := by
  apply extends_foldl
  intro m id accepted
  refine (extends_announce m .accept id spawned).mono ?_ fun _ held => held
  rintro event rfl
  exact .accept id accepted

theorem extends_rejected (m : ResourceManager) (response : UpdateResponse)
    (rejected : List Rejection) (listed : ∀ rejection ∈ rejected, rejection ∈ response.rejected)
    (spawned : Job → Prop) :
    Extends (Answers response) spawned m
      (rejected.foldl (fun m rejection => m.announce .reject rejection.application) m) := by
  apply extends_foldl
  intro m rejection member
  refine (extends_announce m .reject rejection.application spawned).mono ?_ fun _ => id
  rintro event rfl
  exact .reject rejection (listed rejection member)

theorem extends_receive (m : ResourceManager) (response : UpdateResponse) (spawned : Job → Prop) :
    Extends (Answers response) spawned m (m.receive response) :=
  (extends_accepted m response spawned).trans
    (extends_rejected _ response response.rejected (fun _ member => member) spawned)

theorem extends_respond (m : ResourceManager) (response : UpdateResponse)
    (spawned : Job → Prop) :
    Extends (Answers response) spawned m ((m.respond response).toOption.getD m) := by
  unfold respond
  cases m.scheduler.registered with
  | error fault => exact .refl _ spawned m
  | ok => exact extends_receive m response spawned

theorem mem_receive_of_rejected {m : ResourceManager} {response : UpdateResponse}
    {rejection : Rejection} {app : Application}
    (found : m.registry.find? rejection.application = some app)
    (running : m.dispatcher.running = true) (rejected : rejection ∈ response.rejected) :
    .event (.application { application := rejection.application, kind := .reject }) ∈
      (m.receive response).dispatcher.queue := by
  -- The rejections after this one only add to the queue.
  obtain ⟨before, after, split⟩ := List.append_of_mem rejected
  have accepted := extends_accepted m response fun _ => False
  unfold receive
  generalize response.accepted.foldl (fun m id => m.announce .accept id) m = middle at accepted ⊢
  have earlier := extends_rejected middle response before
    (fun held member => split ▸ List.mem_append_left _ member) fun _ => False
  have sofar := accepted.trans earlier
  simp only [split, List.foldl_append, List.foldl_cons]
  refine (extends_rejected _ response after
    (fun held member => split ▸ List.mem_append_right _ (List.mem_cons_of_mem _ member))
    fun _ => False).kept ?_
  apply mem_announce
  next => rw [sofar.registry]; exact found
  next => rw [sofar.running]; exact running

inductive Raised (effects : List Effect) : Event → Prop
  | sent (event : Event) (member : .dispatch event ∈ effects) : Raised effects event
  | accepted (description : AddApplication) (member : .submit description ∈ effects) :
      Raised effects (.application { application := description.application, kind := .accept })
  | refused (description : AddApplication) (reason : String)
      (member : .submit description ∈ effects) :
      Raised effects (.application (.fail description.application reason))

theorem update_frame {scheduler next : Scheduler Unit} {request : UpdateRequest}
    {answer : Option (Unit × UpdateResponse)}
    (updated : scheduler.update request = .ok (next, answer)) :
    next.failure = scheduler.failure ∧ ∀ receiver response, answer = some (receiver, response) →
      response = { accepted := request.applications.map (·.application) } := by
  unfold Scheduler.update at updated
  split at updated
  next => cases updated
  next =>
    cases updated
    refine ⟨rfl, ?_⟩
    intro receiver response answered
    unfold Scheduler.answer at answered
    split at answered
    next =>
      simp only [Option.map_eq_some_iff, Prod.mk.injEq] at answered
      obtain ⟨-, -, -, same⟩ := answered
      exact same.symm
    next => cases answered

theorem extends_submit (m : ResourceManager) (description : AddApplication)
    (spawned : Job → Prop) :
    Extends (Raised [.submit description]) spawned m (m.submit description) := by
  unfold submit
  cases updated : m.scheduler.update (m.request description) with
  | error fault =>
    refine (extends_note m _ _ spawned).trans ((extends_dispatch _ _ spawned).mono ?_ fun _ => id)
    rintro event rfl
    exact .refused description fault.message List.mem_cons_self
  | ok result =>
    obtain ⟨scheduler, answer⟩ := result
    obtain ⟨failure, answered⟩ := update_frame updated
    have kept : Extends (Raised [.submit description]) spawned m { m with scheduler } :=
      { Extends.refl _ spawned m with failure }
    cases answer with
    | none => exact kept
    | some told =>
      -- An answer that comes within the request accepts just the application of the request.
      obtain ⟨receiver, response⟩ := told
      refine kept.trans ((extends_receive _ response spawned).mono ?_ fun _ => id)
      cases answered receiver response rfl
      intro event answers
      cases answers with
      | accept id accepted =>
        cases List.mem_singleton.mp accepted
        exact .accepted description List.mem_cons_self
      | reject rejection rejected => cases rejected

theorem extends_perform (m : ResourceManager) (effect : Effect) :
    Extends (Raised [effect]) (fun job => .spawn job = effect) m (m.perform effect) := by
  cases effect with
  | submit description => exact extends_submit m description _
  | dispatch event =>
    refine (extends_dispatch m event _).mono ?_ fun _ => id
    rintro raised rfl
    exact .sent raised List.mem_cons_self
  | record event =>
    exact { Extends.refl _ _ m with }
  | spawn job =>
    exact
      { Extends.refl (Raised [.spawn job]) (fun other => Effect.spawn other = .spawn job) m with
        jobs := ⟨[job], rfl, by simp⟩ }
  | note notice => exact extends_note m _ _ _

theorem extends_performAll (m : ResourceManager) (effects : List Effect) :
    Extends (Raised effects) (fun job => .spawn job ∈ effects) m (m.performAll effects) := by
  apply extends_foldl
  intro m effect member
  refine (extends_perform m effect).mono ?_ ?_
  next =>
    intro event raised
    cases raised with
    | sent event only => exact .sent event (List.mem_singleton.mp only ▸ member)
    | accepted description only => exact .accepted description (List.mem_singleton.mp only ▸ member)
    | refused description reason only =>
      exact .refused description reason (List.mem_singleton.mp only ▸ member)
  next =>
    intro job spawned
    exact spawned ▸ member

inductive Owed (scheduler : Scheduler Unit) (effects : List Effect) : Event → Prop
  | sent (event : Event) (member : .dispatch event ∈ effects) : Owed scheduler effects event
  | refused (description : AddApplication) (fault : Error)
      (member : .submit description ∈ effects) (unavailable : scheduler.available = .error fault) :
      Owed scheduler effects (.application (.fail description.application fault.message))

theorem mem_perform {m : ResourceManager} (running : m.dispatcher.running = true) {effect : Effect}
    {event : Event} (owed : Owed m.scheduler [effect] event) :
    .event event ∈ (m.perform effect).dispatcher.queue := by
  cases owed with
  | sent event member =>
    cases List.mem_singleton.mp member
    exact mem_dispatch running event
  | refused description fault member unavailable =>
    cases List.mem_singleton.mp member
    simp only [perform, submit, Scheduler.update, unavailable]
    exact mem_dispatch running _

theorem mem_performAll {m : ResourceManager} (running : m.dispatcher.running = true)
    {effects : List Effect} {event : Event} (owed : Owed m.scheduler effects event) :
    .event event ∈ (m.performAll effects).dispatcher.queue := by
  have performed (effect : Effect) (member : effect ∈ effects)
      (now : ∀ middle : ResourceManager, middle.scheduler.failure = m.scheduler.failure →
        Owed middle.scheduler [effect] event) :
      .event event ∈ (m.performAll effects).dispatcher.queue := by
    -- What comes before leaves the dispatcher running and the scheduler as available as it was.
    obtain ⟨before, after, split⟩ := List.append_of_mem member
    have earlier := extends_performAll m before
    simp only [performAll, split, List.foldl_append, List.foldl_cons]
    refine (extends_performAll _ after).kept ?_
    exact mem_perform (earlier.running.trans running) (now _ earlier.failure)
  cases owed with
  | sent event member => exact performed _ member fun _ _ => .sent event List.mem_cons_self
  | refused description fault member unavailable =>
    refine performed _ member fun middle same => .refused description fault List.mem_cons_self ?_
    simpa [Scheduler.available, same] using unavailable

end ResourceManager

end GangScheduling
