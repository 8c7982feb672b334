import GangScheduling.Proofs.Dispatcher.Drain
import GangScheduling.Proofs.Dispatcher.Ledger

set_option autoImplicit false

namespace GangScheduling

namespace Dispatcher

variable {H : Type}

structure Acceptance (H : Type) where
  after : Dispatcher H
  notices : List Notice

def Acceptance.warns (acceptance : Acceptance H) : Bool :=
  acceptance.notices.any fun notice => notice.text = "dispatcher backlog is high"

def acceptance? (d : Dispatcher H) : Move H → Option (Acceptance H)
  | .dispatch _ event =>
    if d.running then some ⟨(d.dispatch event).1, (d.dispatch event).2⟩ else none
  | _ => none

def acceptances : Dispatcher H → List (Move H) → List (Acceptance H)
  | _, [] => []
  | d, move :: rest =>
    match d.step move with
    | none => []
    | some next => (d.acceptance? move).toList ++ acceptances next rest

/-- A warning comes exactly where the size exceeds the threshold and did not do so at the accepted
dispatch before, or there was none. -/
def EdgeTriggered (threshold : Nat) (size : Dispatcher H → Nat) (history : List (Acceptance H)) :
    Prop :=
  ∀ before now later, history = before ++ now :: later →
    (now.warns = true ↔ threshold < size now.after ∧
      ∀ previous ∈ before.getLast?, size previous.after ≤ threshold)

def backlog (d : Dispatcher H) : Nat :=
  d.waitingEvents.length

section Acceptances

variable {d next : Dispatcher H} {move : Move H} {accepted : Acceptance H}

theorem acceptance_cases (found : d.acceptance? move = some accepted) :
    ∃ caller event, move = .dispatch caller event ∧ d.running = true ∧
      accepted = ⟨(d.enqueue event).checkBacklog.1, (d.enqueue event).checkBacklog.2⟩ := by
  cases move with
  | dispatch caller event =>
    cases running : d.running with
    | true =>
      have result : d.dispatch event = (d.enqueue event).checkBacklog := by
        simp [dispatch, running]
      refine ⟨caller, event, rfl, rfl, ?_⟩
      simpa [acceptance?, running, result, eq_comm] using found
    | false => simp [acceptance?, running] at found
  | _ => cases found

theorem after_of_step (found : d.acceptance? move = some accepted)
    (step : d.step move = some next) : next = accepted.after := by
  obtain ⟨caller, event, rfl, running, rfl⟩ := acceptance_cases found
  cases step_cases step with
  | accept => rfl
  | refuse caller event stopped => simp [running] at stopped

theorem checkBacklog_backlog (d : Dispatcher H) :
    d.checkBacklog.1.threshold = d.threshold ∧ d.checkBacklog.1.pending = d.pending ∧
      d.checkBacklog.1.warned = decide (d.threshold < d.pending) ∧
      Acceptance.warns ⟨d.checkBacklog.1, d.checkBacklog.2⟩ =
        (decide (d.threshold < d.pending) && !d.warned) := by
  have text (pending threshold : Nat) :
      (Notice.backlogHigh pending threshold).text = "dispatcher backlog is high" := rfl
  unfold checkBacklog
  by_cases above : d.threshold < d.pending
  next =>
    rw [if_pos above, decide_eq_true above]
    refine ⟨rfl, rfl, rfl, ?_⟩
    cases d.warned <;> simp [Acceptance.warns, text]
  next =>
    rw [if_neg above, decide_eq_false above]
    exact ⟨rfl, rfl, rfl, rfl⟩

theorem acceptance_backlog (found : d.acceptance? move = some accepted) :
    accepted.after.threshold = d.threshold ∧
      accepted.after.warned = decide (d.threshold < accepted.after.pending) ∧
      accepted.warns = (decide (d.threshold < accepted.after.pending) && !d.warned) := by
  obtain ⟨caller, event, -, -, rfl⟩ := acceptance_cases found
  obtain ⟨threshold, pending, warned, warns⟩ := checkBacklog_backlog (d.enqueue event)
  rw [pending]
  exact ⟨threshold, warned, warns⟩

theorem warned_of_step (missing : d.acceptance? move = none) (step : Step d move next) :
    next.threshold = d.threshold ∧ next.warned = d.warned := by
  cases step with
  | accept caller event running => simp [acceptance?, running] at missing
  | receive consumer received next waiting receives => cases receives <;> exact ⟨rfl, rfl⟩
  | _ => exact ⟨rfl, rfl⟩

def aboveAfter (d : Dispatcher H) (history : List (Acceptance H)) : Bool :=
  (history.getLast?.map fun last => decide (d.threshold < last.after.pending)).getD d.warned

theorem aboveAfter_cons (found : d.acceptance? move = some accepted)
    (history : List (Acceptance H)) :
    accepted.after.aboveAfter history = d.aboveAfter (accepted :: history) := by
  obtain ⟨threshold, warned, -⟩ := acceptance_backlog found
  cases last : history.getLast? <;>
    simp [aboveAfter, List.getLast?_cons, last, threshold, warned]

theorem warns_of_acceptances (d : Dispatcher H) (moves : List (Move H))
    {before later : List (Acceptance H)} {now : Acceptance H}
    (split : d.acceptances moves = before ++ now :: later) :
    now.warns = (decide (d.threshold < now.after.pending) && !d.aboveAfter before) := by
  induction moves generalizing d before with
  | nil => simp [acceptances] at split
  | cons move rest ih =>
    simp only [acceptances] at split
    cases step : d.step move with
    | none => simp [step] at split
    | some next =>
      rw [step] at split
      cases found : d.acceptance? move with
      | none =>
        obtain ⟨threshold, warned⟩ := warned_of_step found (step_cases step)
        rw [found] at split
        simpa [aboveAfter, threshold, warned] using ih next split
      | some accepted =>
        obtain ⟨threshold, -, warns⟩ := acceptance_backlog found
        rw [found, after_of_step found step] at split
        simp only [Option.toList_some, List.singleton_append] at split
        cases before with
        | nil =>
          obtain ⟨rfl, -⟩ := List.cons.inj split
          exact warns
        | cons first before =>
          obtain ⟨rfl, rest_split⟩ := List.cons.inj split
          rw [← aboveAfter_cons found, ← threshold]
          exact ih _ rest_split

theorem edgeTriggered_pending (threshold : Nat) (moves : List (Move H)) :
    EdgeTriggered threshold pending ((fresh threshold).acceptances moves) := by
  intro before now later split
  have given : (fresh threshold : Dispatcher H).threshold = threshold := rfl
  have down : (fresh threshold : Dispatcher H).warned = false := rfl
  rw [warns_of_acceptances (fresh threshold) moves split, given]
  cases last : before.getLast? <;> simp [aboveAfter, last, given, down]

end Acceptances

section Markers

def Swayed (threshold : Nat) (d : Dispatcher H) : Prop :=
  d.backlog ≤ threshold ∧ threshold < d.pending

/-- The markers raise a warning that the events do not, or they have raised before what the events
raise now. -/
def Misled (threshold : Nat) (before : List (Acceptance H)) (now : Acceptance H) : Prop :=
  (Swayed threshold now.after ∧
      ∀ previous ∈ before.getLast?, previous.after.pending ≤ threshold) ∨
    (threshold < now.after.backlog ∧ ∃ previous ∈ before.getLast?, Swayed threshold previous.after)

theorem backlog_le_pending (d : Dispatcher H) : d.backlog ≤ d.pending :=
  List.length_filterMap_le _ _

theorem backlog_of_unmarked {d : Dispatcher H} (unmarked : .stop ∉ d.queue) :
    d.backlog = d.pending := by
  apply List.filterMap_length_eq_length.mpr
  intro entry member
  cases entry with
  | event event => rfl
  | stop => exact absurd member unmarked

theorem edgeTriggered_backlog_iff {threshold : Nat} {history : List (Acceptance H)}
    (edge : EdgeTriggered threshold pending history) :
    EdgeTriggered threshold backlog history ↔
      ∀ before now later, history = before ++ now :: later → ¬ Misled threshold before now := by
  have same (before : List (Acceptance H)) (now : Acceptance H) :
      ((threshold < now.after.pending ∧
            ∀ previous ∈ before.getLast?, previous.after.pending ≤ threshold) ↔
          threshold < now.after.backlog ∧
            ∀ previous ∈ before.getLast?, previous.after.backlog ≤ threshold) ↔
        ¬ Misled threshold before now := by
    have fewer := backlog_le_pending now.after
    cases last : before.getLast? with
    | none =>
      simp only [Misled, Swayed, last, Option.mem_def, reduceCtorEq, false_implies, implies_true,
        and_true, false_and, exists_false, and_false, or_false]
      omega
    | some previous =>
      have fewerBefore := backlog_le_pending previous.after
      simp only [Misled, Swayed, last, Option.mem_def, Option.some.injEq, forall_eq',
        exists_eq_left']
      omega
  constructor
  next =>
    intro events before now later split
    have entries := edge before now later split
    exact (same before now).mp (entries.symm.trans (events before now later split))
  next =>
    intro fair before now later split
    have entries := edge before now later split
    exact entries.trans ((same before now).mpr (fair before now later split))

theorem exists_of_mem_acceptances {d last : Dispatcher H} {moves : List (Move H)}
    {accepted : Acceptance H} (run : d.run moves = some last)
    (member : accepted ∈ d.acceptances moves) :
    ∃ before move after middle, moves = before ++ move :: after ∧ d.run before = some middle ∧
      middle.acceptance? move = some accepted := by
  induction moves generalizing d with
  | nil => simp [acceptances] at member
  | cons move rest ih =>
    simp only [Dispatcher.run] at run
    split at run
    next => cases run
    next next step =>
      rw [acceptances, step] at member
      rcases List.mem_append.mp member with now | later
      next => exact ⟨[], move, rest, d, rfl, rfl, by simpa using now⟩
      next =>
        obtain ⟨before, dispatch, after, middle, rfl, reached, found⟩ := ih run later
        have possible : d.run (move :: before) = some middle := by
          rw [Dispatcher.run, step]
          exact reached
        exact ⟨move :: before, dispatch, after, middle, rfl, possible, found⟩

theorem backlog_of_no_handler_start {threshold : Nat} {moves : List (Move H)}
    {d : Dispatcher H} (run : (fresh threshold).run moves = some d)
    (calm : ∀ move ∈ moves, move.isPanic = false)
    (allowed : ∀ move ∈ moves, move.isHandlerStart = false) {accepted : Acceptance H}
    (member : accepted ∈ (fresh threshold).acceptances moves) :
    accepted.after.backlog = accepted.after.pending := by
  obtain ⟨before, move, after, middle, rfl, reached, found⟩ := exists_of_mem_acceptances run member
  have tidy := tidy_run reached (fun move member => calm move (by simp [member]))
    (fun move member => allowed move (by simp [member]))
  obtain ⟨caller, event, -, running, rfl⟩ := acceptance_cases found
  apply backlog_of_unmarked
  rw [(checkBacklog_frame (middle.enqueue event)).2.2.2.1]
  simpa [enqueue] using tidy.unmarked running

theorem not_misled_of_no_handler_start {threshold : Nat} {moves : List (Move H)}
    {d : Dispatcher H} (run : (fresh threshold).run moves = some d)
    (calm : ∀ move ∈ moves, move.isPanic = false)
    (allowed : ∀ move ∈ moves, move.isHandlerStart = false)
    {before later : List (Acceptance H)} {now : Acceptance H}
    (split : (fresh threshold).acceptances moves = before ++ now :: later) :
    ¬ Misled threshold before now := by
  have steady {accepted : Acceptance H} (member : accepted ∈ before ++ now :: later) :
      ¬ Swayed threshold accepted.after := by
    have same := backlog_of_no_handler_start run calm allowed (split ▸ member)
    rintro ⟨within, beyond⟩
    omega
  rintro (⟨swayed, -⟩ | ⟨-, previous, last, swayed⟩)
  next => exact steady (by simp) swayed
  next => exact steady (by simp [List.mem_of_getLast? last]) swayed

end Markers

section Refused

def countRefused (d : Dispatcher H) : Dispatcher H :=
  { d with dropped := d.dropped + 1 }

-- With the brackets the equations are no definitional ones for simp, so that it rewrites the
-- instances behind the conditions too.
@[simp] theorem running_countRefused (d : Dispatcher H) :
    d.countRefused.running = d.running := (rfl)

@[simp] theorem activity?_countRefused (d : Dispatcher H) (consumer : Nat) :
    d.countRefused.activity? consumer = d.activity? consumer := (rfl)

@[simp] theorem present_countRefused (d : Dispatcher H) (caller : Caller) :
    d.countRefused.present caller = d.present caller := by
  cases caller <;> rfl

theorem checkBacklog_countRefused (d : Dispatcher H) :
    d.countRefused.checkBacklog = (d.checkBacklog.1.countRefused, d.checkBacklog.2) := by
  by_cases above : d.threshold < d.pending
  next =>
    have counted : d.countRefused.threshold < d.countRefused.pending := above
    rw [checkBacklog, checkBacklog, if_pos above, if_pos counted]
    rfl
  next =>
    have counted : ¬ d.countRefused.threshold < d.countRefused.pending := above
    rw [checkBacklog, checkBacklog, if_neg above, if_neg counted]
    rfl

theorem dispatch_countRefused (d : Dispatcher H) (event : Event) :
    d.countRefused.dispatch event = ((d.dispatch event).1.countRefused, (d.dispatch event).2) := by
  cases running : d.running with
  | true =>
    simp only [dispatch, running_countRefused, running, if_true]
    exact checkBacklog_countRefused (d.enqueue event)
  | false =>
    simp only [dispatch, running_countRefused, running]
    rfl

def Starting.map (change : Dispatcher H → Dispatcher H) : Starting H → Starting H
  | .kept d => .kept (change d)
  | .spawned d notices => .spawned (change d) notices
  | .blocked => .blocked

theorem start_countRefused (d : Dispatcher H) (caller : Caller) :
    d.countRefused.start caller = (d.start caller).map countRefused := by
  have current : d.countRefused.current = d.current := rfl
  simp only [Dispatcher.start, running_countRefused, current]
  cases d.running with
  | true => rfl
  | false =>
    cases d.current with
    | none => rfl
    | some number => by_cases own : caller = .consumer number <;> simp [own] <;> rfl

theorem receive_countRefused (d : Dispatcher H) (consumer : Nat) :
    d.countRefused.receive consumer =
      (d.receive consumer).map fun taken => (taken.1, taken.2.countRefused) := by
  have queue : d.countRefused.queue = d.queue := rfl
  have handlers (category : Category) :
      d.countRefused.handler? category = d.handler? category := rfl
  simp only [receive, activity?_countRefused, queue]
  split
  next event rest waiting first =>
    rw [handlers]
    cases d.handler? event.category <;> rfl
  next rest waiting first =>
    rw [running_countRefused]
    cases d.running <;> rfl
  next => rfl

theorem step_countRefused (d : Dispatcher H) (move : Move H) :
    d.countRefused.step move = (d.step move).map countRefused := by
  cases move with
  | register category handler => rfl
  | dispatch caller event =>
    simp only [step, dispatch_countRefused, present_countRefused]
    cases d.present caller <;> rfl
  | start caller threadAvailable =>
    simp only [step, start_countRefused, present_countRefused]
    cases d.present caller with
    | false => rfl
    | true =>
      cases d.start caller with
      | spawned next notices => cases threadAvailable <;> rfl
      | _ => rfl
  | stop caller =>
    simp only [step, Dispatcher.stop, present_countRefused, running_countRefused]
    cases d.present caller <;> cases d.running <;> rfl
  | receive consumer =>
    simp only [step, receive_countRefused]
    cases d.receive consumer <;> rfl
  | finish consumer =>
    simp only [step, activity?_countRefused]
    split <;> rfl
  | panic consumer =>
    simp only [step, activity?_countRefused]
    split <;> rfl
  | exit consumer =>
    simp only [step, activity?_countRefused]
    split <;> rfl

theorem run_countRefused (d : Dispatcher H) (moves : List (Move H)) :
    d.countRefused.run moves = (d.run moves).map countRefused := by
  induction moves generalizing d with
  | nil => rfl
  | cons move rest ih =>
    simp only [Dispatcher.run, step_countRefused]
    cases d.step move with
    | none => rfl
    | some next => exact ih next

theorem notices_countRefused (d : Dispatcher H) (moves : List (Move H)) :
    (d.countRefused.acceptances moves).map (·.notices) =
      (d.acceptances moves).map (·.notices) := by
  induction moves generalizing d with
  | nil => rfl
  | cons move rest ih =>
    have now : (d.countRefused.acceptance? move).map (·.notices) =
        (d.acceptance? move).map (·.notices) := by
      cases move with
      | dispatch caller event =>
        simp only [acceptance?, dispatch_countRefused, running_countRefused]
        split <;> rfl
      | _ => rfl
    simp only [acceptances, step_countRefused]
    cases d.step move with
    | none => rfl
    | some next =>
      simp only [Option.map_some, List.map_append, ih next, ← Option.toList_map, now]

theorem acceptances_append {d middle : Dispatcher H} {before : List (Move H)}
    (run : d.run before = some middle) (after : List (Move H)) :
    d.acceptances (before ++ after) = d.acceptances before ++ middle.acceptances after := by
  induction before generalizing d with
  | nil =>
    cases run
    rfl
  | cons move rest ih =>
    simp only [Dispatcher.run] at run
    split at run
    next => cases run
    next next possible =>
      simp only [List.cons_append, acceptances, possible, ih run, List.append_assoc]

theorem refused_dispatch {d middle last : Dispatcher H} {before after : List (Move H)}
    {caller : Caller} {event : Event} (reached : d.run before = some middle)
    (stopped : middle.running = false)
    (run : d.run (before ++ .dispatch caller event :: after) = some last) :
    (d.run (before ++ after)).map countRefused = some last ∧
      (d.acceptances (before ++ .dispatch caller event :: after)).map (·.notices) =
        (d.acceptances (before ++ after)).map (·.notices) := by
  rw [run_append, reached, Option.bind_some, Dispatcher.run] at run
  split at run
  next => cases run
  next next possible =>
    have counted : next = middle.countRefused := by
      cases step_cases possible with
      | accept _ _ running => simp [stopped] at running
      | refuse => rfl
    have unheard : middle.acceptance? (.dispatch caller event) = none := by
      simp [acceptance?, stopped]
    subst counted
    constructor
    next => rw [run_append, reached, Option.bind_some, ← run_countRefused, run]
    next =>
      rw [acceptances_append reached, acceptances_append reached, acceptances, possible, unheard]
      simp only [Option.toList_none, List.nil_append, List.map_append, notices_countRefused]

end Refused

/-- A warning comes exactly where the queue with its markers crosses the threshold, and that is
where the waiting events do, except where the markers make the difference. They do not where no
handler starts the dispatcher. A refused dispatch does not warn, and without it everything else is
logged the same. -/
theorem warns_at_crossing {threshold : Nat} {moves : List (Move H)} {d : Dispatcher H}
    (run : (fresh threshold).run moves = some d) :
    EdgeTriggered threshold pending ((fresh threshold).acceptances moves) ∧
      (EdgeTriggered threshold backlog ((fresh threshold).acceptances moves) ↔
        ∀ before now later, (fresh threshold).acceptances moves = before ++ now :: later →
          ¬ Misled threshold before now) ∧
      ((∀ move ∈ moves, move.isPanic = false) → (∀ move ∈ moves, move.isHandlerStart = false) →
        EdgeTriggered threshold backlog ((fresh threshold).acceptances moves)) ∧
      ∀ before caller event after middle, moves = before ++ .dispatch caller event :: after →
        (fresh threshold).run before = some middle → middle.running = false →
          (middle.dispatch event).2 = [.eventRefused event.applicationId] ∧
            ((fresh threshold).run (before ++ after)).map countRefused = some d ∧
            ((fresh threshold).acceptances moves).map (·.notices) =
              ((fresh threshold).acceptances (before ++ after)).map (·.notices) := by
  have edge := edgeTriggered_pending threshold moves
  have events := edgeTriggered_backlog_iff edge
  refine ⟨edge, events, ?_, ?_⟩
  next =>
    intro calm allowed
    apply events.mpr
    intro before now later split
    exact not_misled_of_no_handler_start run calm allowed split
  next =>
    rintro before caller event after middle rfl reached stopped
    have refused : (middle.dispatch event).2 = [.eventRefused event.applicationId] := by
      simp [dispatch, stopped]
    exact ⟨refused, refused_dispatch reached stopped run⟩

def refilled : List (Move Unit) :=
  let event : Event := .application { application := "a", kind := .run }
  [.register .application (), .start .outside true, .dispatch .outside event,
   .dispatch .outside event, .dispatch .outside event, .receive 0, .finish 0, .receive 0,
   .finish 0, .receive 0, .finish 0, .dispatch .outside event, .stop .outside,
   .dispatch .outside event, .receive 0, .finish 0, .receive 0, .exit 0, .start .outside true,
   .dispatch .outside event, .dispatch .outside event]

theorem warns_at_crossing_refilled :
    ∃ d, (fresh 1).run refilled = some d ∧
      EdgeTriggered 1 backlog ((fresh 1).acceptances refilled) ∧
      ((fresh 1).acceptances refilled).map Acceptance.warns =
        [false, true, false, false, false, true] ∧
      ((fresh 1).run (refilled.take 13 ++ refilled.drop 14)).map countRefused = some d := by
  have possible : ((fresh 1).run refilled).isSome := rfl
  obtain ⟨d, run⟩ := Option.isSome_iff_exists.mp possible
  have calm : ∀ move ∈ refilled, move.isPanic = false := by decide
  have allowed : ∀ move ∈ refilled, move.isHandlerStart = false := by decide
  obtain ⟨-, -, edge, refused⟩ := warns_at_crossing run
  have ⟨_, same, _⟩ := refused (refilled.take 13) .outside _ (refilled.drop 14) _ rfl rfl rfl
  exact ⟨d, run, edge calm allowed, rfl, same⟩

theorem marker_raises_warning :
    ∃ d, (fresh 1).run (bounce []) = some d ∧ d.backlog = 1 ∧
      ((fresh 1).acceptances (bounce [])).map Acceptance.warns = [false, true] ∧
      ¬ EdgeTriggered 1 backlog ((fresh 1).acceptances (bounce [])) := by
  refine ⟨_, rfl, rfl, rfl, ?_⟩
  intro edge
  have crossed := (edge [_] _ [] rfl).mp rfl
  exact absurd crossed.1 (Nat.lt_irrefl 1)
end Dispatcher

end GangScheduling
