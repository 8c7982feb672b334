import GangScheduling.Proofs.ResourceManager.Perform

set_option autoImplicit false

namespace GangScheduling

namespace ResourceManager

variable {m next : ResourceManager}

def delivery? (m : ResourceManager) : Option Event :=
  match m.dispatcher.consumers with
  | [] | (_, .leaving) :: _ => none
  | (consumer, _) :: _ =>
    match m.dispatcher.receive consumer with
    | some (.handled _ event, _) => some event
    | _ => none

inductive Advances (m : ResourceManager) : Option Event → ResourceManager → Prop
  | left (consumer : Nat) :
      Advances m none { m with dispatcher := m.dispatcher.leave consumer }
  | passed (entry : Entry) (dispatcher : Dispatcher Unit) (notices : List Notice)
      (first : m.dispatcher.queue = entry :: dispatcher.queue)
      (running : dispatcher.running = m.dispatcher.running)
      (handlers : dispatcher.handlers = m.dispatcher.handlers)
      (ignored : ∀ event, entry = .event event → m.dispatcher.handler? event.category = none) :
      Advances m none { m with dispatcher, notices }
  | delivered (event : Event) (dispatcher : Dispatcher Unit) (consumer : Nat)
      (first : m.dispatcher.queue = .event event :: dispatcher.queue)
      (running : dispatcher.running = m.dispatcher.running)
      (handlers : dispatcher.handlers = m.dispatcher.handlers) :
      Advances m (some event)
        { { m with dispatcher }.deliver event with
          dispatcher := ({ m with dispatcher }.deliver event).dispatcher.finish consumer }

theorem advances_of_advance (h : m.advance (fun _ => false) = some next) :
    Advances m m.delivery? next := by
  unfold advance at h
  split at h
  next => cases h
  next consumer rest alive =>
    cases h
    have none : m.delivery? = none := by simp [delivery?, alive]
    rw [none]
    exact .left consumer
  next consumer activity rest leaving alive =>
    -- Both functions look at the first consumer, and from here on at what it receives.
    have delivery : m.delivery? = match m.dispatcher.receive consumer with
        | some (.handled _ event, _) => some event
        | _ => none := by
      cases activity with
      | leaving => exact absurd rfl leaving
      | _ => simp [delivery?, alive]
    rw [delivery]
    cases taken : m.dispatcher.receive consumer with
    | none => simp [taken] at h
    | some result =>
      obtain ⟨received, dispatcher⟩ := result
      obtain ⟨-, receives⟩ := Dispatcher.receive_cases taken
      simp only [taken] at h
      cases receives with
      | handled event handler rest first found =>
        simp only [Bool.false_eq_true, if_false, Option.some.injEq] at h
        subst h
        exact .delivered event _ consumer first rfl rfl
      | unhandled event rest first missing =>
        cases h
        refine .passed (.event event) _ _ first rfl rfl ?_
        rintro _ ⟨⟩
        exact missing
      | stale rest first running =>
        cases h
        exact .passed .stop _ m.notices first rfl rfl (by rintro _ ⟨⟩)
      | final rest first stopped =>
        cases h
        exact .passed .stop _ m.notices first rfl rfl (by rintro _ ⟨⟩)

theorem delivery?_of_idle (idle : m.advance (fun _ => false) = none) : m.delivery? = none := by
  unfold advance at idle
  split at idle
  next empty => simp [delivery?, empty]
  next => cases idle
  next consumer activity rest leaving alive =>
    cases taken : m.dispatcher.receive consumer with
    | none => cases activity <;> simp [delivery?, alive, taken]
    | some result =>
      obtain ⟨received, dispatcher⟩ := result
      cases received <;> simp [taken] at idle

inductive Milestone
  | creationFailed (application : String)
  | cleanUpBegun (application : String) (thenRun : Bool)
  | cleanUpEnded (application : String) (thenRun : Bool)
deriving DecidableEq

def milestone? (m : ResourceManager) : Job → Option Milestone
  | .reserve reservation ((group, _ + 1) :: _) =>
    match (m.placeholders.createMember reservation group).2 with
    | .ok () => none
    | .error _ => some (.creationFailed reservation.application)
  | .cleanUp application thenRun => some (.cleanUpBegun application thenRun)
  | .delete application [] thenRun => some (.cleanUpEnded application thenRun)
  | _ => none

inductive Works : Job → Option Milestone → Option Job → Prop
  | reserved (reservation : Reservation) : Works (.reserve reservation []) none none
  | creating (reservation : Reservation) (plan rest : List (TaskGroup × Nat)) :
      Works (.reserve reservation plan) none (some (.reserve reservation rest))
  | failing (reservation : Reservation) (plan : List (TaskGroup × Nat)) :
      Works (.reserve reservation plan) (some (.creationFailed reservation.application))
        (some (.cleanUp reservation.application true))
  | forgetting (application : String) (pods : List Pod) (thenRun : Bool) :
      Works (.cleanUp application thenRun) (some (.cleanUpBegun application thenRun))
        (some (.delete application pods thenRun))
  | deleting (application : String) (pod : Pod) (rest : List Pod) (thenRun : Bool) :
      Works (.delete application (pod :: rest) thenRun) none
        (some (.delete application rest thenRun))
  | ended (application : String) (thenRun : Bool) :
      Works (.delete application [] thenRun) (some (.cleanUpEnded application thenRun)) none

theorem works_of_stepJob (m : ResourceManager) {job : Job} (own : job ≠ .beginLoop) :
    Works job (m.milestone? job) (m.stepJob job).2 := by
  cases job with
  | beginLoop => exact absurd rfl own
  | reserve reservation plan =>
    -- A group that is complete is passed over in a step of its own.
    cases plan with
    | nil => exact .reserved reservation
    | cons entry rest =>
      obtain ⟨group, missing⟩ := entry
      cases missing with
      | zero => exact .creating reservation _ rest
      | succ missing =>
        simp only [milestone?, stepJob]
        cases created : m.placeholders.createMember reservation group with
        | mk placeholders outcome =>
          cases outcome with
          | ok => exact .creating reservation _ _
          | error fault => exact .failing reservation _
  | cleanUp application thenRun => exact .forgetting application _ thenRun
  | delete application pods thenRun =>
    cases pods with
    | nil => exact .ended application thenRun
    | cons pod rest => exact .deleting application pod rest thenRun

inductive Finishes : Job → Event → Prop
  | run (application : String) :
      Finishes (.delete application [] true) (.application (.run application))

theorem extends_stepJob (m : ResourceManager) {job : Job} (own : job ≠ .beginLoop)
    (spawned : Job → Prop) : Extends (Finishes job) spawned m (m.stepJob job).1 := by
  have same (placeholders : PlaceholderManager) :
      Extends (Finishes job) spawned m { m with placeholders } :=
    { Extends.refl _ spawned m with }
  cases job with
  | beginLoop => exact absurd rfl own
  | reserve reservation plan =>
    cases plan with
    | nil => exact .refl _ spawned m
    | cons entry rest =>
      obtain ⟨group, missing⟩ := entry
      cases missing with
      | zero => exact .refl _ spawned m
      | succ missing =>
        simp only [stepJob]
        cases created : m.placeholders.createMember reservation group with
        | mk placeholders outcome =>
          cases outcome with
          | ok => exact same placeholders
          | error fault => exact (same placeholders).trans (extends_note _ _ _ spawned)
  | cleanUp application thenRun => exact same _
  | delete application pods thenRun =>
    cases pods with
    | nil =>
      cases thenRun with
      | false => exact .refl _ spawned m
      | true =>
        refine (extends_dispatch m _ spawned).mono ?_ fun _ held => held
        rintro event rfl
        exact .run application
    | cons pod rest => exact (same _).trans (extends_note _ _ _ spawned)

theorem stepJob_frame (m : ResourceManager) {job : Job} (own : job ≠ .beginLoop) :
    (m.stepJob job).1.scheduler = m.scheduler ∧ (m.stepJob job).1.recorder = m.recorder ∧
      (m.stepJob job).1.loop = m.loop := by
  cases job with
  | beginLoop => exact absurd rfl own
  | reserve reservation plan =>
    cases plan with
    | nil => exact ⟨rfl, rfl, rfl⟩
    | cons entry rest =>
      obtain ⟨group, missing⟩ := entry
      cases missing with
      | zero => exact ⟨rfl, rfl, rfl⟩
      | succ missing =>
        simp only [stepJob]
        split <;> exact ⟨rfl, rfl, rfl⟩
  | cleanUp application thenRun => exact ⟨rfl, rfl, rfl⟩
  | delete application pods thenRun =>
    cases pods with
    | nil => cases thenRun <;> exact ⟨rfl, rfl, rfl⟩
    | cons pod rest => exact ⟨rfl, rfl, rfl⟩

/-- The next part of the background work at that place. The passes of a schedule loop are
scheduling calls of their own. -/
def work (m : ResourceManager) (index : Nat) : ResourceManager :=
  match m.jobs[index]? with
  | none | some .beginLoop => m
  | some job =>
    match m.stepJob job with
    | (next, some rest) => { next with jobs := m.jobs.set index rest }
    | (next, none) => { next with jobs := m.jobs.eraseIdx index }

def worked (m : ResourceManager) (index : Nat) : Option Milestone :=
  m.jobs[index]?.bind m.milestone?

theorem work_idle {index : Nat} (idle : m.jobs[index]? = none ∨ m.jobs[index]? = some .beginLoop) :
    m.work index = m ∧ m.worked index = none := by
  cases idle with
  | inl absent => simp [work, worked, absent]
  | inr loop => simp [work, worked, loop, milestone?]

theorem work_of_held {index : Nat} {job : Job} (held : m.jobs[index]? = some job)
    (own : job ≠ .beginLoop) :
    m.work index = match m.stepJob job with
      | (next, some rest) => { next with jobs := m.jobs.set index rest }
      | (next, none) => { next with jobs := m.jobs.eraseIdx index } := by
  unfold work
  rw [held]
  cases job with
  | beginLoop => exact absurd rfl own
  | _ => rfl

theorem work_busy {index : Nat} {job : Job} (held : m.jobs[index]? = some job)
    (own : job ≠ .beginLoop) :
    ∃ jobs, m.work index = { (m.stepJob job).1 with jobs } ∧
      ∀ other ∈ jobs, other ∈ m.jobs ∨ (m.stepJob job).2 = some other := by
  rw [work_of_held held own]
  cases stepped : m.stepJob job with
  | mk next left =>
    cases left with
    | none => exact ⟨_, rfl, fun other member => .inl (List.mem_of_mem_eraseIdx member)⟩
    | some rest =>
      refine ⟨_, rfl, fun other member => ?_⟩
      cases List.mem_or_eq_of_mem_set member with
      | inl before => exact .inl before
      | inr same => exact .inr (congrArg some same.symm)

theorem work_cases (m : ResourceManager) (index : Nat) :
    (m.work index = m ∧ m.worked index = none) ∨
      ∃ job jobs, job ∈ m.jobs ∧ job ≠ .beginLoop ∧
        m.work index = { (m.stepJob job).1 with jobs } ∧ m.worked index = m.milestone? job ∧
        ∀ other ∈ jobs, other ∈ m.jobs ∨ (m.stepJob job).2 = some other := by
  cases held : m.jobs[index]? with
  | none => exact .inl (work_idle (.inl held))
  | some job =>
    by_cases own : job = .beginLoop
    next => exact .inl (work_idle (.inr (own ▸ held)))
    next =>
      obtain ⟨jobs, same, origin⟩ := work_busy held own
      refine .inr ⟨job, jobs, List.mem_of_getElem? held, own, same, ?_, origin⟩
      simp [worked, held]

theorem extends_work (m : ResourceManager) (index : Nat) :
    ∃ raised, Extends raised (fun _ => False) m { m.work index with jobs := m.jobs } := by
  rcases work_cases m index with ⟨same, -⟩ | ⟨job, jobs, -, own, same, -, -⟩
  next =>
    rw [same]
    exact ⟨fun _ => False, .refl _ _ m⟩
  next =>
    have extended := extends_stepJob m own fun _ => False
    rw [same]
    exact ⟨Finishes job, { extended with jobs := ⟨[], by simp⟩ }⟩

theorem startDispatcher_frame (m : ResourceManager) :
    ∃ dispatcher notices, m.startDispatcher = { m with dispatcher, notices } ∧
      dispatcher.queue = m.dispatcher.queue ∧ dispatcher.handlers = m.dispatcher.handlers ∧
      (m.dispatcher.running = true → dispatcher.running = true) := by
  by_cases running : m.dispatcher.running = true
  next =>
    refine ⟨m.dispatcher, m.notices, ?_, rfl, rfl, fun _ => running⟩
    simp [startDispatcher, Dispatcher.start, running]
  next =>
    cases current : m.dispatcher.current with
    | none =>
      refine ⟨m.dispatcher.spawn.1, m.notices ++ m.dispatcher.spawn.2, ?_, rfl, rfl, fun _ => rfl⟩
      simp [startDispatcher, Dispatcher.start, running, current, note]
    | some consumer =>
      refine ⟨m.dispatcher, m.notices, ?_, rfl, rfl, fun h => absurd h running⟩
      simp [startDispatcher, Dispatcher.start, running, current]

end ResourceManager

end GangScheduling
