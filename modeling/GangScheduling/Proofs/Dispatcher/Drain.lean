import GangScheduling.Proofs.Dispatcher.Consumer

set_option autoImplicit false

namespace GangScheduling

namespace Dispatcher

variable {H : Type}

def behindMarker (queue : List Entry) : List Entry :=
  (queue.dropWhile (· ≠ .stop)).tail

@[simp] theorem behindMarker_event (event : Event) (rest : List Entry) :
    behindMarker (.event event :: rest) = behindMarker rest := by
  simp [behindMarker]

@[simp] theorem behindMarker_stop (rest : List Entry) : behindMarker (.stop :: rest) = rest := by
  simp [behindMarker]

theorem behindMarker_of_unmarked {queue : List Entry} (unmarked : .stop ∉ queue) :
    behindMarker queue = [] := by
  induction queue with
  | nil => rfl
  | cons entry rest ih =>
    cases entry with
    | event event => exact (behindMarker_event event rest).trans (ih (by simp_all))
    | stop => simp at unmarked

theorem behindMarker_append {queue : List Entry} (marked : .stop ∈ queue) (later : List Entry) :
    behindMarker (queue ++ later) = behindMarker queue ++ later := by
  induction queue with
  | nil => simp at marked
  | cons entry rest ih =>
    cases entry with
    | event event => simpa using ih (by simpa using marked)
    | stop => simp

def stopFinds (d : Dispatcher H) : Move H → Option (List Entry)
  | .stop _ => if d.running then some d.queue else none
  | _ => none

def lastStop : Dispatcher H → Option (List Entry) → List (Move H) → Option (List Entry)
  | _, found, [] => found
  | d, found, move :: rest =>
    match d.step move with
    | none => found
    | some next => lastStop next ((d.stopFinds move).or found) rest

/-- What the consumer does not get to after a stop that found the given queue. -/
def leftBehind : Option (List Entry) → List Entry
  | none => []
  | some found => behindMarker (found ++ [.stop])

theorem leftBehind_eq_nil_iff (found : List Entry) :
    leftBehind (some found) = [] ↔ .stop ∉ found := by
  by_cases marked : .stop ∈ found
  next => simp [leftBehind, behindMarker_append marked, marked]
  next =>
    have ends : behindMarker (found ++ [.stop]) = [] := by
      induction found with
      | nil => simp
      | cons entry rest ih =>
        cases entry with
        | event event => simpa using ih (by simpa using marked)
        | stop => simp at marked
    simp [leftBehind, ends, marked]

theorem event_mem_leftBehind_iff (event : Event) (found : List Entry) :
    .event event ∈ leftBehind (some found) ↔ .event event ∈ behindMarker found := by
  by_cases marked : .stop ∈ found
  next => simp [leftBehind, behindMarker_append marked]
  next => simp [(leftBehind_eq_nil_iff found).mpr marked, behindMarker_of_unmarked marked]

/-- A stopped dispatcher on its way to leave behind what its last stop implies. -/
structure Draining (d : Dispatcher H) (found : Option (List Entry)) : Prop where
  ahead : d.running = false → ∀ consumer activity, d.consumers = [(consumer, activity)] →
    activity ≠ .leaving → .stop ∈ d.queue ∧ behindMarker d.queue = leftBehind found
  gone : d.running = false → (∀ entry ∈ d.consumers, entry.2 = .leaving) →
    d.queue = leftBehind found

theorem draining_fresh (threshold : Nat) : Draining (fresh threshold : Dispatcher H) none :=
  ⟨fun _ _ _ alive => by simp [fresh] at alive, fun _ _ => rfl⟩

theorem Draining.of_running {d : Dispatcher H} {found : Option (List Entry)}
    (running : d.running = true) : Draining d found :=
  ⟨fun stopped => by simp [running] at stopped, fun stopped => by simp [running] at stopped⟩

theorem Draining.of_same {d next : Dispatcher H} {found : Option (List Entry)}
    (draining : Draining d found) (running : next.running = d.running)
    (consumers : next.consumers = d.consumers) (queue : next.queue = d.queue) :
    Draining next found := by
  obtain ⟨ahead, gone⟩ := draining
  constructor
  next => rw [running, consumers, queue]; exact ahead
  next => rw [running, consumers, queue]; exact gone

theorem Draining.of_ahead {d next : Dispatcher H} {found : Option (List Entry)}
    {consumer : Nat} {activity : Activity} (alive : next.consumers = [(consumer, activity)])
    (stays : activity ≠ .leaving)
    (ahead : d.running = false → .stop ∈ next.queue ∧ behindMarker next.queue = leftBehind found)
    (running : next.running = d.running) : Draining next found := by
  constructor
  next =>
    intro stopped _ _ _ _
    exact ahead (running ▸ stopped)
  next =>
    intro _ all_leaving
    exact absurd (all_leaving (consumer, activity) (by simp [alive])) stays

theorem draining_receives {d next : Dispatcher H} {consumer : Nat} {received : Received H}
    {found : Option (List Entry)} (staffed : Staffed d) (draining : Draining d found)
    (waiting : d.activity? consumer = some .waiting)
    (receives : Receives d consumer received next) : Draining next found := by
  obtain ⟨alive, -, -⟩ := staffed.only waiting
  have ahead (stopped : d.running = false) :=
    draining.ahead stopped consumer .waiting alive (by simp)
  cases receives with
  | handled event handler rest first found =>
    refine .of_ahead (d := d) (staffed.turn waiting .handling) (by simp) ?_ rfl
    intro stopped
    simpa [first] using ahead stopped
  | unhandled event rest first missing =>
    refine .of_ahead (d := d) alive (by simp) ?_ rfl
    intro stopped
    simpa [first] using ahead stopped
  | stale rest first running => exact .of_running running
  | final rest first stopped =>
    -- The consumer turns to leave, with the queue down to what is behind the marker.
    constructor
    next =>
      intro _ number activity leaving stays
      have both := (staffed.turn waiting .leaving).symm.trans leaving
      simp_all
    next =>
      intro _ _
      simpa [first] using (ahead stopped).2

theorem draining_step {d next : Dispatcher H} {move : Move H} {found : Option (List Entry)}
    (staffed : Staffed d) (draining : Draining d found) (step : Step d move next)
    (calm : move.isPanic = false) : Draining next ((d.stopFinds move).or found) := by
  cases step with
  | register category handler => exact draining.of_same rfl rfl rfl
  | accept caller event running =>
    exact .of_running ((checkBacklog_frame (d.enqueue event)).1.trans running)
  | refuse caller event stopped => exact draining.of_same rfl rfl rfl
  | keep => exact draining
  | restart => exact .of_running rfl
  | spawn => exact .of_running rfl
  | noThread => exact draining
  | stop caller running =>
    -- From here on what stays behind is decided by the queue that this stop finds.
    simp only [stopFinds, running, if_true]
    constructor
    next => exact fun _ _ _ _ _ => ⟨by simp, rfl⟩
    next =>
      intro _ all_leaving
      cases staffed with
      | nobody _ _ stopped => simp [running] at stopped
      | one number activity alive _ stays =>
        have leaving := all_leaving (number, activity) (by simp [alive])
        simp [running] at stays
        exact absurd leaving stays
  | stopAgain caller stopped => simpa [stopFinds, stopped] using draining
  | receive consumer received next waiting receives =>
    exact draining_receives staffed draining waiting receives
  | finish consumer handling =>
    obtain ⟨alive, -, -⟩ := staffed.only handling
    exact .of_ahead (d := d) (staffed.turn handling .waiting) (by simp)
      (fun stopped => draining.ahead stopped consumer .handling alive (by simp)) rfl
  | panic => cases calm
  | exit consumer leaving =>
    -- The marker was read when the consumer turned to leave, so the queue is settled already.
    obtain ⟨alive, -, stays⟩ := staffed.only leaving
    have empty : (d.leave consumer).consumers = [] := by simp [Dispatcher.leave, alive]
    constructor
    next => intro _ _ _ nobody; simp [empty] at nobody
    next => exact fun _ _ => draining.gone (stays rfl) (by simp [alive])

theorem draining_run {d last : Dispatcher H} {moves : List (Move H)}
    {found : Option (List Entry)} (staffed : Staffed d) (draining : Draining d found)
    (calm : ∀ move ∈ moves, move.isPanic = false) (run : d.run moves = some last) :
    Draining last (lastStop d found moves) := by
  -- The last stop so far changes along the run, so it is generalized with the state.
  induction moves generalizing d found with
  | nil => cases run; exact draining
  | cons move rest ih =>
    simp only [Dispatcher.run] at run
    split at run
    next => cases run
    next after possible =>
      have quiet := calm move (by simp)
      have step := step_cases possible
      rw [lastStop, possible]
      exact ih (staffed_step staffed step quiet) (draining_step staffed draining step quiet)
        (fun later member => calm later (by simp [member])) run

theorem Staffed.stopped_of_gone {d : Dispatcher H} (staffed : Staffed d)
    (gone : d.consumers = []) : d.running = false := by
  cases staffed with
  | nobody _ _ stopped => exact stopped
  | one number activity alive => simp [gone] at alive

theorem queue_eq_leftBehind {threshold : Nat} {moves : List (Move H)} {d : Dispatcher H}
    (run : (fresh threshold).run moves = some d)
    (calm : ∀ move ∈ moves, move.isPanic = false) (gone : d.consumers = []) :
    d.queue = leftBehind (lastStop (fresh threshold) none moves) := by
  have staffed := staffed_run (staffed_fresh threshold) calm run
  have draining := draining_run (staffed_fresh threshold) (draining_fresh threshold) calm run
  exact draining.gone (staffed.stopped_of_gone gone) (by simp [gone])

/-- When no consumer is alive, the queue is empty if and only if the last stop found no marker of an
earlier one; else it holds the events that were accepted after the first marker. -/
theorem queue_of_no_consumer {threshold : Nat} {moves : List (Move H)} {d : Dispatcher H}
    (run : (fresh threshold).run moves = some d)
    (calm : ∀ move ∈ moves, move.isPanic = false) (gone : d.consumers = []) :
    (d.queue = [] ↔ ∀ found, lastStop (fresh threshold) none moves = some found → .stop ∉ found) ∧
      ∀ event, .event event ∈ d.queue ↔ ∃ found,
        lastStop (fresh threshold) none moves = some found ∧
          .event event ∈ behindMarker found := by
  rw [queue_eq_leftBehind run calm gone]
  cases lastStop (fresh threshold : Dispatcher H) none moves with
  | none => simp [leftBehind]
  | some found => simp [leftBehind_eq_nil_iff, event_mem_leftBehind_iff]

def bounce (rest : List (Move Unit)) : List (Move Unit) :=
  [.register .application (), .start .outside true,
   .dispatch .outside (.application { application := "first", kind := .run }), .receive 0,
   .stop (.consumer 0), .start (.consumer 0) true,
   .dispatch (.consumer 0) (.application { application := "second", kind := .run })] ++ rest

def stopOutside : List (Move Unit) :=
  [.finish 0, .receive 0, .receive 0, .finish 0, .stop .outside, .receive 0, .exit 0]

theorem queue_of_no_consumer_stopOutside :
    ∃ d, (fresh 0).run (bounce stopOutside) = some d ∧
      (∀ move ∈ bounce stopOutside, move.isPanic = false) ∧ d.consumers = [] ∧ d.queue = [] := by
  have possible : ((fresh 0).run (bounce stopOutside)).isSome := rfl
  obtain ⟨d, run⟩ := Option.isSome_iff_exists.mp possible
  have calm : ∀ move ∈ bounce stopOutside, move.isPanic = false := by decide
  have alive : ((fresh 0).run (bounce stopOutside)).map (·.consumers) = some [] := rfl
  have gone : d.consumers = [] := by simpa [run] using alive
  refine ⟨d, run, calm, gone, (queue_of_no_consumer run calm gone).1.mpr ?_⟩
  intro found last
  have nothing : lastStop (fresh 0) none (bounce stopOutside) = some [] := rfl
  simp_all

def stopInHandler : List (Move Unit) :=
  [.stop (.consumer 0), .finish 0, .receive 0, .exit 0]

theorem bounce_strands_event :
    ∃ d, (fresh 0).run (bounce stopInHandler) = some d ∧
      (∀ move ∈ bounce stopInHandler, move.isPanic = false) ∧ d.consumers = [] ∧
      d.queue = [.event (.application { application := "second", kind := .run }), .stop] :=
  ⟨_, rfl, by decide, rfl, rfl⟩

def Move.isHandlerStart : Move H → Bool
  | .start (.consumer _) _ => true
  | _ => false

structure Tidy (d : Dispatcher H) : Prop where
  staffed : Staffed d
  settled : ∃ found, Draining d found ∧ leftBehind found = []
  unmarked : d.running = true → .stop ∉ d.queue

theorem tidy_fresh (threshold : Nat) : Tidy (fresh threshold : Dispatcher H) :=
  ⟨staffed_fresh threshold, ⟨none, draining_fresh threshold, rfl⟩, by simp [fresh]⟩

theorem unmarked_step {d next : Dispatcher H} {move : Move H} {found : Option (List Entry)}
    (draining : Draining d found) (nothing : leftBehind found = []) (staffed : Staffed d)
    (unmarked : d.running = true → .stop ∉ d.queue) (step : Step d move next)
    (allowed : move.isHandlerStart = false) :
    (next.running = true → .stop ∉ next.queue) ∧
      leftBehind ((d.stopFinds move).or found) = [] := by
  cases step with
  | register category handler => exact ⟨unmarked, nothing⟩
  | accept caller event running =>
    refine ⟨fun _ => ?_, nothing⟩
    rw [(checkBacklog_frame (d.enqueue event)).2.2.2.1]
    simpa [enqueue] using unmarked running
  | refuse caller event stopped => exact ⟨unmarked, nothing⟩
  | keep => exact ⟨unmarked, nothing⟩
  | restart => cases allowed
  | spawn caller stopped free =>
    refine ⟨fun _ => ?_, nothing⟩
    -- A new consumer comes only after the last one is gone, and that one left nothing.
    have nobody : d.consumers = [] := by
      cases staffed with
      | nobody consumers => exact consumers
      | one number activity _ current => simp [current] at free
    have empty : d.queue = [] := (draining.gone stopped (by simp [nobody])).trans nothing
    simp [Dispatcher.spawn, empty]
  | noThread => exact ⟨unmarked, nothing⟩
  | stop caller running =>
    refine ⟨by simp, ?_⟩
    simpa only [stopFinds, running, if_true, Option.some_or, leftBehind_eq_nil_iff] using
      unmarked running
  | stopAgain caller stopped => exact ⟨unmarked, by simpa [stopFinds, stopped] using nothing⟩
  | receive consumer received next waiting receives =>
    refine ⟨?_, nothing⟩
    cases receives with
    | handled event handler rest first _ =>
      exact fun running => by simpa [first] using unmarked running
    | unhandled event rest first _ => exact fun running => by simpa [first] using unmarked running
    | stale rest first running => exact fun _ => by simpa [first] using unmarked running
    | final rest first stopped =>
      exact fun running => absurd (stopped.symm.trans running) (by simp)
  | finish consumer handling => exact ⟨unmarked, nothing⟩
  | panic consumer handling => exact ⟨unmarked, nothing⟩
  | exit consumer leaving => exact ⟨unmarked, nothing⟩

theorem tidy_step {d next : Dispatcher H} {move : Move H} (tidy : Tidy d) (step : Step d move next)
    (calm : move.isPanic = false) (allowed : move.isHandlerStart = false) : Tidy next := by
  obtain ⟨staffed, ⟨found, draining, nothing⟩, unmarked⟩ := tidy
  have kept := unmarked_step draining nothing staffed unmarked step allowed
  exact ⟨staffed_step staffed step calm, ⟨_, draining_step staffed draining step calm, kept.2⟩,
    kept.1⟩

theorem tidy_run {threshold : Nat} {moves : List (Move H)} {d : Dispatcher H}
    (run : (fresh threshold).run moves = some d) (calm : ∀ move ∈ moves, move.isPanic = false)
    (allowed : ∀ move ∈ moves, move.isHandlerStart = false) : Tidy d := by
  have keeps (before : Dispatcher H) (move : Move H) (after : Dispatcher H)
      (both : move.isPanic = false ∧ move.isHandlerStart = false) (tidy : Tidy before)
      (step : Step before move after) : Tidy after := tidy_step tidy step both.1 both.2
  exact run_preserves keeps (fun move member => ⟨calm move member, allowed move member⟩)
    (tidy_fresh threshold) run

/-- Nothing stays behind in a run in which no handler starts the dispatcher. -/
theorem queue_empty_of_no_handler_start {threshold : Nat} {moves : List (Move H)}
    {d : Dispatcher H} (run : (fresh threshold).run moves = some d)
    (calm : ∀ move ∈ moves, move.isPanic = false)
    (allowed : ∀ move ∈ moves, move.isHandlerStart = false) (gone : d.consumers = []) :
    d.queue = [] := by
  obtain ⟨staffed, ⟨found, draining, nothing⟩, -⟩ := tidy_run run calm allowed
  exact (draining.gone (staffed.stopped_of_gone gone) (by simp [gone])).trans nothing

end Dispatcher

end GangScheduling
