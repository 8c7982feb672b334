import GangScheduling.Proofs.Registry
import GangScheduling.Proofs.ResourceManager.Step

set_option autoImplicit false

namespace GangScheduling

/-- The dispatcher runs, its consumer waits, and events for applications have a handler. -/
structure Dispatcher.Attentive (d : Dispatcher Unit) : Prop where
  running : d.running = true
  waiting : ∃ number, d.consumers = [(number, .waiting)]
  handles : (d.handler? .application).isSome = true

theorem Dispatcher.Attentive.of_same {d next : Dispatcher Unit} (attentive : d.Attentive)
    (running : next.running = d.running) (consumers : next.consumers = d.consumers)
    (handlers : next.handlers = d.handlers) : next.Attentive where
  running := running.trans attentive.running
  waiting := by
    rw [consumers]
    exact attentive.waiting
  handles := by
    rw [Dispatcher.handler?, handlers]
    exact attentive.handles

namespace ResourceManager

variable {m : ResourceManager} {app after : Application} {event : ApplicationEvent}

theorem performAll_spawn (m : ResourceManager) (jobs : List Job) :
    m.performAll (jobs.map .spawn) = { m with jobs := m.jobs ++ jobs } := by
  induction jobs generalizing m with
  | nil => simp [performAll]
  | cons job rest ih =>
    have step : m.performAll ((job :: rest).map .spawn) =
        { m with jobs := m.jobs ++ [job] }.performAll (rest.map .spawn) := rfl
    rw [step, ih]
    simp

theorem advance_idle (attentive : m.dispatcher.Attentive) (queue : m.dispatcher.queue = []) :
    m.advance (fun _ => false) = none := by
  obtain ⟨number, alive⟩ := attentive.waiting
  simp [advance, alive, Dispatcher.receive, Dispatcher.activity?, queue]

def handing (d : Dispatcher Unit) (number : Nat) (rest : List Entry) : Dispatcher Unit :=
  { d.turn number .handling with queue := rest, delivered := d.delivered + 1 }

theorem attentive_finish {d last : Dispatcher Unit} {number : Nat} {rest : List Entry}
    (attentive : d.Attentive) (alive : d.consumers = [(number, .waiting)])
    (running : last.running = (handing d number rest).running)
    (consumers : last.consumers = (handing d number rest).consumers)
    (handlers : last.handlers = (handing d number rest).handlers) :
    (last.finish number).Attentive := by
  refine attentive.of_same running ?_ handlers
  simp [Dispatcher.finish, Dispatcher.turn, consumers, handing, alive]

theorem advance_handing {number : Nat} {rest : List Entry} {sent : Event}
    (alive : m.dispatcher.consumers = [(number, .waiting)])
    (queue : m.dispatcher.queue = .event sent :: rest)
    (handles : (m.dispatcher.handler? sent.category).isSome = true) :
    m.advance (fun _ => false) =
      some { { m with dispatcher := handing m.dispatcher number rest }.deliver sent with
        dispatcher := ({ m with dispatcher := handing m.dispatcher number rest }.deliver
          sent).dispatcher.finish number } := by
  obtain ⟨handler, found⟩ := Option.isSome_iff_exists.mp handles
  have waits : m.dispatcher.activity? number = some .waiting := by
    simp [Dispatcher.activity?, alive]
  simp [advance, alive, Dispatcher.receive, waits, queue, found, handing]

theorem advance_spawning {rest : List Entry} {jobs : List Job}
    (attentive : m.dispatcher.Attentive)
    (queue : m.dispatcher.queue = .event (.application event) :: rest)
    (found : m.registry.find? event.application = some app)
    (handled : app.handle event = .ok (after, jobs.map .spawn)) :
    ∃ dispatcher, m.advance (fun _ => false) =
        some { m.update after with dispatcher, jobs := m.jobs ++ jobs } ∧
      dispatcher.Attentive ∧ dispatcher.queue = rest := by
  obtain ⟨number, alive⟩ := attentive.waiting
  refine ⟨(handing m.dispatcher number rest).finish number, ?_,
    attentive_finish attentive alive rfl rfl rfl, rfl⟩
  rw [advance_handing alive queue attentive.handles]
  simp only [deliver, handle, Registry.lookup, found, handled, performAll_spawn]
  rfl

theorem dispatch_attentive (attentive : m.dispatcher.Attentive) (event : Event) :
    ∃ dispatcher notices, m.dispatch event = { m with dispatcher, notices } ∧
      dispatcher.Attentive ∧ dispatcher.queue = m.dispatcher.queue ++ [.event event] := by
  obtain ⟨runs, alive, -, queue, handlers⟩ :=
    Dispatcher.checkBacklog_frame (m.dispatcher.enqueue event)
  have same := dispatch_running attentive.running event
  refine ⟨_, _, rfl, ?_, ?_⟩
  next =>
    change (m.dispatch event).dispatcher.Attentive
    rw [same]
    exact attentive.of_same runs alive handlers
  next =>
    change (m.dispatch event).dispatcher.queue = _
    rw [same, queue]
    rfl

theorem work_zero {job : Job} (jobs : m.jobs = [job]) (own : job ≠ .beginLoop) :
    m.work 0 = { (m.stepJob job).1 with jobs := (m.stepJob job).2.toList } := by
  have first : m.jobs[0]? = some job := by simp [jobs]
  unfold work
  rw [first]
  cases job with
  | beginLoop => exact absurd rfl own
  | _ =>
    simp only
    split
    next next rest stepped => simp [stepped, jobs]
    next next stepped => simp [stepped, jobs]

theorem work_absent {index : Nat} (absent : m.jobs.length ≤ index) : m.work index = m :=
  (work_idle (.inl (List.getElem?_eq_none absent))).1

end ResourceManager

end GangScheduling
