import GangScheduling.Proofs.Dispatcher.Step

set_option autoImplicit false

namespace GangScheduling

namespace Dispatcher

variable {H : Type}

/-- Nobody is alive and the dispatcher is stopped, or one consumer is, which a start knows about and
which does not leave while the dispatcher runs. -/
inductive Staffed (d : Dispatcher H) : Prop
  | nobody (consumers : d.consumers = []) (current : d.current = none)
      (stopped : d.running = false)
  | one (number : Nat) (activity : Activity) (consumers : d.consumers = [(number, activity)])
      (current : d.current = some number) (stays : activity = .leaving → d.running = false)

theorem staffed_fresh (threshold : Nat) : Staffed (fresh threshold : Dispatcher H) :=
  .nobody rfl rfl rfl

theorem activity?_nobody {d : Dispatcher H} {consumer : Nat} {activity : Activity}
    (consumers : d.consumers = []) : d.activity? consumer ≠ some activity := by
  simp [activity?, consumers]

theorem activity?_one {d : Dispatcher H} {number consumer : Nat} {activity shown : Activity}
    (consumers : d.consumers = [(number, activity)]) (h : d.activity? consumer = some shown) :
    consumer = number ∧ activity = shown := by
  by_cases same : consumer = number
  next => simp_all [activity?]
  next =>
    have differ : (consumer == number) = false := by simpa using same
    simp [activity?, consumers, List.lookup_cons, differ] at h

theorem Staffed.only {d : Dispatcher H} (staffed : Staffed d) {consumer : Nat}
    {activity : Activity} (h : d.activity? consumer = some activity) :
    d.consumers = [(consumer, activity)] ∧ d.current = some consumer ∧
      (activity = .leaving → d.running = false) := by
  cases staffed with
  | nobody consumers => exact absurd h (activity?_nobody consumers)
  | one number shown consumers current stays =>
    obtain ⟨rfl, rfl⟩ := activity?_one consumers h
    exact ⟨consumers, current, stays⟩

theorem Staffed.turn {d : Dispatcher H} (staffed : Staffed d) {consumer : Nat}
    {activity : Activity} (h : d.activity? consumer = some activity) (later : Activity) :
    (d.turn consumer later).consumers = [(consumer, later)] := by
  simp [Dispatcher.turn, (staffed.only h).1]

theorem Staffed.of_same {d next : Dispatcher H} (staffed : Staffed d)
    (consumers : next.consumers = d.consumers) (current : next.current = d.current)
    (running : next.running = d.running) : Staffed next := by
  cases staffed with
  | nobody none_alive none_current stopped =>
    exact .nobody (consumers.trans none_alive) (current.trans none_current)
      (running.trans stopped)
  | one number activity alive known stays =>
    exact .one number activity (consumers.trans alive) (current.trans known)
      fun leaving => running.trans (stays leaving)

theorem staffed_receives {d next : Dispatcher H} {consumer : Nat} {received : Received H}
    (staffed : Staffed d) (waiting : d.activity? consumer = some .waiting)
    (receives : Receives d consumer received next) : Staffed next := by
  obtain ⟨-, current, -⟩ := staffed.only waiting
  cases receives with
  | handled event handler rest first found =>
    exact .one consumer .handling (staffed.turn waiting .handling) current (by simp)
  | unhandled event rest first missing => exact staffed.of_same rfl rfl rfl
  | stale rest first running => exact staffed.of_same rfl rfl rfl
  | final rest first stopped =>
    exact .one consumer .leaving (staffed.turn waiting .leaving) current fun _ => stopped

theorem staffed_step {d next : Dispatcher H} {move : Move H} (staffed : Staffed d)
    (step : Step d move next) (calm : move.isPanic = false) : Staffed next := by
  cases step with
  | register category handler => exact staffed.of_same rfl rfl rfl
  | accept caller event running =>
    obtain ⟨runs, alive, known, -⟩ := checkBacklog_frame (d.enqueue event)
    exact staffed.of_same alive known runs
  | refuse caller event stopped => exact staffed.of_same rfl rfl rfl
  | keep => exact staffed
  | restart consumer threadAvailable stopped current handling =>
    obtain ⟨alive, known, -⟩ := staffed.only handling
    exact .one consumer .handling alive known (by simp)
  | spawn caller stopped free =>
    have alive : d.consumers = [] := by
      cases staffed with
      | nobody none_alive => exact none_alive
      | one number activity _ known => simp [known] at free
    exact .one d.spawned .waiting (by simp [Dispatcher.spawn, alive]) rfl (by simp)
  | noThread => exact staffed
  | stop caller running =>
    cases staffed with
    | nobody _ _ stopped => simp [running] at stopped
    | one number activity alive known => exact .one number activity alive known fun _ => rfl
  | stopAgain => exact staffed
  | receive consumer received next waiting receives =>
    exact staffed_receives staffed waiting receives
  | finish consumer handling =>
    obtain ⟨-, known, -⟩ := staffed.only handling
    exact .one consumer .waiting (staffed.turn handling .waiting) known (by simp)
  | panic => cases calm
  | exit consumer leaving =>
    obtain ⟨alive, known, stays⟩ := staffed.only leaving
    exact .nobody (by simp [Dispatcher.leave, alive]) (by simp [Dispatcher.leave, known])
      (stays rfl)

theorem run_preserves {P : Dispatcher H → Prop} {allowed : Move H → Prop} {d last : Dispatcher H}
    {moves : List (Move H)}
    (keeps : ∀ before move after, allowed move → P before → Step before move after → P after)
    (moves_allowed : ∀ move ∈ moves, allowed move) (start : P d)
    (run : d.run moves = some last) : P last := by
  induction moves generalizing d with
  | nil => cases run; exact start
  | cons move rest ih =>
    simp only [Dispatcher.run] at run
    split at run
    next => cases run
    next after possible =>
      have kept := keeps d move after (moves_allowed move (by simp)) start (step_cases possible)
      exact ih (fun later member => moves_allowed later (by simp [member])) kept run

theorem staffed_run {d last : Dispatcher H} {moves : List (Move H)} (staffed : Staffed d)
    (calm : ∀ move ∈ moves, move.isPanic = false) (run : d.run moves = some last) :
    Staffed last := by
  have keeps (before : Dispatcher H) (move : Move H) (after : Dispatcher H)
      (quiet : move.isPanic = false) (kept : Staffed before) (step : Step before move after) :
      Staffed after := staffed_step kept step quiet
  exact run_preserves keeps calm staffed run

theorem Staffed.one_of_running {d : Dispatcher H} (staffed : Staffed d)
    (running : d.running = true) :
    ∃ number activity, d.consumers = [(number, activity)] ∧ activity ≠ .leaving := by
  cases staffed with
  | nobody _ _ stopped => simp [running] at stopped
  | one number activity alive _ stays =>
    refine ⟨number, activity, alive, fun leaving => ?_⟩
    simp [running] at stays
    exact stays leaving

def Quiet (d : Dispatcher H) : Prop :=
  ∀ consumer, d.step (.receive consumer) = none ∧ d.step (.finish consumer) = none ∧
    d.step (.exit consumer) = none

theorem receives_of_queue {d : Dispatcher H} {consumer : Nat} {first : Entry} {rest : List Entry}
    (waiting : d.activity? consumer = some .waiting) (queue : d.queue = first :: rest) :
    (d.receive consumer).isSome = true := by
  cases first with
  | event event => cases found : d.handler? event.category <;> simp [receive, waiting, queue, found]
  | stop => cases running : d.running <;> simp [receive, waiting, queue, running]

theorem queue_of_quiet {d : Dispatcher H} (staffed : Staffed d) (running : d.running = true)
    (quiet : d.Quiet) : d.queue = [] := by
  obtain ⟨number, activity, alive, stays⟩ := staffed.one_of_running running
  obtain ⟨receives, finishes, -⟩ := quiet number
  have active : d.activity? number = some activity := by simp [activity?, alive]
  cases activity with
  | handling => simp [step, active] at finishes
  | leaving => exact absurd rfl stays
  | waiting =>
    cases queue : d.queue with
    | nil => rfl
    | cons first rest =>
      have received := receives_of_queue active queue
      simp only [step, Option.map_eq_none_iff] at receives
      simp [receives] at received

theorem running_of_accepted {d next : Dispatcher H} {caller : Caller} {event : Event}
    (step : Step d (.dispatch caller event) next)
    (accepted : next.queue = d.queue ++ [.event event]) : d.running = true := by
  cases step with
  | accept _ _ running => exact running
  | refuse => simp at accepted

/-- At most one consumer is alive, and while the dispatcher runs exactly one is, which goes on. So
an event is accepted only with a consumer to deliver it, and nothing waits in a running dispatcher
whose consumer has nothing left to do. -/
theorem single_consumer {threshold : Nat} {moves : List (Move H)} {d : Dispatcher H}
    (run : (fresh threshold).run moves = some d)
    (calm : ∀ move ∈ moves, move.isPanic = false) :
    d.consumers.length ≤ 1 ∧
      (d.running = true →
        ∃ number activity, d.consumers = [(number, activity)] ∧ activity ≠ .leaving) ∧
      (∀ caller event next, d.step (.dispatch caller event) = some next →
        next.queue = d.queue ++ [.event event] →
          ∃ number activity, next.consumers = [(number, activity)] ∧ activity ≠ .leaving) ∧
      (d.running = true → d.Quiet → d.queue = []) := by
  have staffed := staffed_run (staffed_fresh threshold) calm run
  refine ⟨?_, staffed.one_of_running, ?_, queue_of_quiet staffed⟩
  next =>
    cases staffed with
    | nobody alive => simp [alive]
    | one number activity alive => simp [alive]
  next =>
    intro caller event next possible accepted
    have step := step_cases possible
    have running := running_of_accepted step accepted
    have kept := staffed_step staffed step rfl
    have runs : next.running = true := by
      cases step with
      | accept => exact (checkBacklog_frame (d.enqueue event)).1.trans running
      | refuse => exact running
    exact kept.one_of_running runs

def restarted : List (Move Unit) :=
  [.register .application (), .start .outside true,
   .dispatch .outside (.application { application := "first", kind := .run }), .receive 0,
   .stop (.consumer 0), .finish 0, .receive 0, .exit 0, .start .outside false,
   .start .outside true]

theorem single_consumer_restarted :
    ∃ d, (fresh 0).run restarted = some d ∧
      (∀ move ∈ restarted, move.isPanic = false) ∧ d.running = true ∧
      ∃ number activity, d.consumers = [(number, activity)] ∧ activity ≠ .leaving := by
  have possible : ((fresh 0).run restarted).isSome := rfl
  obtain ⟨d, run⟩ := Option.isSome_iff_exists.mp possible
  have calm : ∀ move ∈ restarted, move.isPanic = false := by decide
  have runs : ((fresh 0).run restarted).map (·.running) = some true := rfl
  have running : d.running = true := by simpa [run] using runs
  exact ⟨d, run, calm, running, (single_consumer run calm).2.1 running⟩

end Dispatcher

end GangScheduling
