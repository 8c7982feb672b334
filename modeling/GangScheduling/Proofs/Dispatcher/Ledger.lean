import GangScheduling.Proofs.Dispatcher.Step

set_option autoImplicit false

namespace GangScheduling

namespace Dispatcher

variable {H : Type}

inductive Fate
  | accepted (event : Event)
  -- Given to a dispatcher that does not run.
  | refused (event : Event)
  | handed (event : Event)
  -- Taken from the queue without a handler for it.
  | unhandled (event : Event)
deriving DecidableEq, Repr

namespace Fate

def accepted? : Fate → Option Event
  | .accepted event => some event
  | _ => none

def refused? : Fate → Option Event
  | .refused event => some event
  | _ => none

def handed? : Fate → Option Event
  | .handed event => some event
  | _ => none

def processed? : Fate → Option Event
  | .handed event | .unhandled event => some event
  | _ => none

end Fate

def Entry.event? : Entry → Option Event
  | .event event => some event
  | .stop => none

def waitingEvents (d : Dispatcher H) : List Event :=
  d.queue.filterMap Entry.event?

def fate? (d : Dispatcher H) : Move H → Option Fate
  | .dispatch _ event => some (if d.running then .accepted event else .refused event)
  | .receive consumer =>
    match d.receive consumer with
    | some (.handled _ event, _) => some (.handed event)
    | some (.unhandled event, _) => some (.unhandled event)
    | _ => none
  | _ => none

def fates : Dispatcher H → List (Move H) → List Fate
  | _, [] => []
  | d, move :: rest =>
    match d.step move with
    | none => []
    | some next => (d.fate? move).toList ++ fates next rest

def Move.isDispatch : Move H → Bool
  | .dispatch _ _ => true
  | _ => false

structure Accounts (d next : Dispatcher H) (fates : List Fate) : Prop where
  order : fates.filterMap Fate.processed? ++ next.waitingEvents =
    d.waitingEvents ++ fates.filterMap Fate.accepted?
  dispatched : next.dispatched = d.dispatched + (fates.filterMap Fate.accepted?).length
  delivered : next.delivered = d.delivered + (fates.filterMap Fate.handed?).length
  counted : next.delivered + next.dropped = d.delivered + d.dropped +
    ((fates.filterMap Fate.processed?).length + (fates.filterMap Fate.refused?).length)

namespace Accounts

variable {d middle next : Dispatcher H} {first second : List Fate}

theorem trans (before : Accounts d middle first) (after : Accounts middle next second) :
    Accounts d next (first ++ second) where
  order := by
    simp only [List.filterMap_append]
    rw [List.append_assoc, after.order, ← List.append_assoc, before.order, List.append_assoc]
  dispatched := by
    simp only [List.filterMap_append, List.length_append]
    rw [after.dispatched, before.dispatched, Nat.add_assoc]
  delivered := by
    simp only [List.filterMap_append, List.length_append]
    rw [after.delivered, before.delivered, Nat.add_assoc]
  counted := by
    have early := before.counted
    have late := after.counted
    simp only [List.filterMap_append, List.length_append]
    omega

theorem of_same (events : next.waitingEvents = d.waitingEvents)
    (dispatched : next.dispatched = d.dispatched) (delivered : next.delivered = d.delivered)
    (dropped : next.dropped = d.dropped) : Accounts d next [] where
  order := by simp [events]
  dispatched := by simp [dispatched]
  delivered := by simp [delivered]
  counted := by simp [delivered, dropped]

theorem refl (d : Dispatcher H) : Accounts d d [] :=
  .of_same rfl rfl rfl rfl

end Accounts

theorem checkBacklog_counts (d : Dispatcher H) :
    d.checkBacklog.1.dispatched = d.dispatched ∧ d.checkBacklog.1.delivered = d.delivered ∧
      d.checkBacklog.1.dropped = d.dropped := by
  unfold checkBacklog
  split <;> exact ⟨rfl, rfl, rfl⟩

theorem waitingEvents_append (d next : Dispatcher H) (added : List Entry)
    (queue : next.queue = d.queue ++ added) :
    next.waitingEvents = d.waitingEvents ++ added.filterMap Entry.event? := by
  simp [waitingEvents, queue]

theorem accounts_accept (d : Dispatcher H) (event : Event) :
    Accounts d (d.enqueue event).checkBacklog.1 [.accepted event] := by
  obtain ⟨dispatched, delivered, dropped⟩ := checkBacklog_counts (d.enqueue event)
  have queue := (checkBacklog_frame (d.enqueue event)).2.2.2.1
  have events := waitingEvents_append d _ [.event event] queue
  exact
    { order := events
      dispatched
      delivered
      counted := by
        rw [delivered, dropped]
        rfl }

theorem receive_of_receives {d next : Dispatcher H} {consumer : Nat} {received : Received H}
    (waiting : d.activity? consumer = some .waiting)
    (receives : Receives d consumer received next) :
    d.receive consumer = some (received, next) := by
  cases receives with
  | handled event handler rest first found => simp [receive, waiting, first, found]
  | unhandled event rest first missing => simp [receive, waiting, first, missing]
  | stale rest first running => simp [receive, waiting, first, running]
  | final rest first stopped => simp [receive, waiting, first, stopped]

theorem accounts_receives {d next : Dispatcher H} {consumer : Nat} {received : Received H}
    (waiting : d.activity? consumer = some .waiting)
    (receives : Receives d consumer received next) :
    Accounts d next (d.fate? (.receive consumer)).toList := by
  rw [fate?, receive_of_receives waiting receives]
  cases receives with
  | handled event handler rest first found =>
    exact
      { order := by simp [waitingEvents, first, Entry.event?, Fate.processed?, Fate.accepted?]
        dispatched := rfl
        delivered := rfl
        counted := Nat.add_right_comm _ _ _ }
  | unhandled event rest first missing =>
    exact
      { order := by simp [waitingEvents, first, Entry.event?, Fate.processed?, Fate.accepted?]
        dispatched := rfl
        delivered := rfl
        counted := rfl }
  | stale rest first running =>
    exact .of_same (by rw [waitingEvents, waitingEvents, first]; rfl) rfl rfl rfl
  | final rest first stopped =>
    exact .of_same (by rw [waitingEvents, waitingEvents, first]; rfl) rfl rfl rfl

theorem accounts_step {d next : Dispatcher H} {move : Move H} (step : Step d move next) :
    Accounts d next (d.fate? move).toList := by
  cases step with
  | accept caller event running => simpa [fate?, running] using accounts_accept d event
  | refuse caller event stopped =>
    rw [fate?, stopped]
    exact
      { order := (List.append_nil _).symm
        dispatched := rfl
        delivered := rfl
        counted := rfl }
  | stop caller running =>
    -- A marker is no event.
    refine .of_same ?_ rfl rfl rfl
    simp [waitingEvents, Entry.event?]
  | receive consumer received next waiting receives => exact accounts_receives waiting receives
  | keep | noThread | stopAgain => exact .refl _
  | _ => exact .of_same rfl rfl rfl rfl

theorem accounts_run {d last : Dispatcher H} {moves : List (Move H)}
    (run : d.run moves = some last) : Accounts d last (d.fates moves) := by
  induction moves generalizing d with
  | nil =>
    cases run
    exact .refl _
  | cons move rest ih =>
    simp only [Dispatcher.run] at run
    split at run
    next => cases run
    next after possible =>
      rw [fates, possible]
      exact (accounts_step (step_cases possible)).trans (ih run)

theorem fates_append {d middle : Dispatcher H} {before : List (Move H)}
    (run : d.run before = some middle) (after : List (Move H)) :
    d.fates (before ++ after) = d.fates before ++ middle.fates after := by
  induction before generalizing d with
  | nil =>
    cases run
    rfl
  | cons move rest ih =>
    simp only [Dispatcher.run] at run
    split at run
    next => cases run
    next next possible => simp only [List.cons_append, fates, possible, ih run, List.append_assoc]

theorem run_append (d : Dispatcher H) (before after : List (Move H)) :
    d.run (before ++ after) = (d.run before).bind (·.run after) := by
  induction before generalizing d with
  | nil => rfl
  | cons move rest ih =>
    simp only [List.cons_append, Dispatcher.run]
    cases d.step move with
    | none => rfl
    | some next => exact ih next

theorem length_fates_dispatch {d last : Dispatcher H} {moves : List (Move H)}
    (run : d.run moves = some last) :
    ((d.fates moves).filterMap Fate.accepted?).length +
      ((d.fates moves).filterMap Fate.refused?).length = moves.countP Move.isDispatch := by
  induction moves generalizing d with
  | nil => rfl
  | cons move rest ih =>
    simp only [Dispatcher.run] at run
    split at run
    next => cases run
    next next possible =>
      have later := ih run
      have now : ((d.fate? move).toList.filterMap Fate.accepted?).length +
          ((d.fate? move).toList.filterMap Fate.refused?).length = if move.isDispatch then 1 else 0 := by
        cases move with
        | dispatch caller event =>
          cases running : d.running <;> simp [fate?, running, Fate.accepted?, Fate.refused?,
            Move.isDispatch]
        | receive consumer =>
          simp only [fate?, Move.isDispatch]
          split <;> rfl
        | _ => rfl
      rw [fates, possible]
      simp only [List.filterMap_append, List.length_append, List.countP_cons]
      omega

theorem accounts_fresh {threshold : Nat} {moves : List (Move H)} {d : Dispatcher H}
    (run : (fresh threshold).run moves = some d) :
    ((fresh threshold).fates moves).filterMap Fate.processed? ++ d.waitingEvents =
        ((fresh threshold).fates moves).filterMap Fate.accepted? ∧
      d.dispatched = (((fresh threshold).fates moves).filterMap Fate.accepted?).length ∧
      d.delivered + d.dropped =
        (((fresh threshold).fates moves).filterMap Fate.processed?).length +
          (((fresh threshold).fates moves).filterMap Fate.refused?).length ∧
      d.delivered = (((fresh threshold).fates moves).filterMap Fate.handed?).length := by
  obtain ⟨order, dispatched, delivered, counted⟩ := accounts_run run
  exact ⟨order, by simpa [fresh] using dispatched, by simpa [fresh] using counted,
    by simpa [fresh] using delivered⟩

theorem counts_le {threshold : Nat} {moves : List (Move H)} {d : Dispatcher H}
    (run : (fresh threshold).run moves = some d) :
    d.dispatched ≤ moves.countP Move.isDispatch ∧
      d.delivered + d.dropped ≤ moves.countP Move.isDispatch := by
  obtain ⟨order, dispatched, counted, -⟩ := accounts_fresh run
  have total := length_fates_dispatch run
  have lengths := congrArg List.length order
  rw [List.length_append] at lengths
  constructor <;> omega

theorem accepted_of_dispatch {d middle : Dispatcher H} {before after : List (Move H)}
    {caller : Caller} {event : Event}
    (run : d.run (before ++ .dispatch caller event :: after) = some middle)
    {now : Dispatcher H} (reached : d.run before = some now) (running : now.running = true) :
    ∃ later, (d.fates (before ++ .dispatch caller event :: after)).filterMap Fate.accepted? =
      (d.fates before).filterMap Fate.accepted? ++ event :: later := by
  rw [run_append, reached, Option.bind_some, Dispatcher.run] at run
  split at run
  next => cases run
  next next possible =>
    refine ⟨(next.fates after).filterMap Fate.accepted?, ?_⟩
    rw [fates_append reached, fates, possible]
    simp [fate?, running, Fate.accepted?]

/-- What was processed, in that order, and then what waits is what was accepted, in that order, and
the counters agree. An event that is accepted, from a handler or from outside, comes after
everything that was processed or waited by then. -/
theorem processed_append_waiting {threshold : Nat} {moves : List (Move H)} {d : Dispatcher H}
    (run : (fresh threshold).run moves = some d) :
    ((fresh threshold).fates moves).filterMap Fate.processed? ++ d.waitingEvents =
        ((fresh threshold).fates moves).filterMap Fate.accepted? ∧
      d.dispatched = (((fresh threshold).fates moves).filterMap Fate.accepted?).length ∧
      d.delivered + d.dropped =
        (((fresh threshold).fates moves).filterMap Fate.processed?).length +
          (((fresh threshold).fates moves).filterMap Fate.refused?).length ∧
      d.delivered = (((fresh threshold).fates moves).filterMap Fate.handed?).length ∧
      -- With fewer dispatches than that no counter leaves its 64 bits.
      (moves.countP Move.isDispatch < UInt64.size →
        d.dispatched < UInt64.size ∧ d.delivered < UInt64.size ∧ d.dropped < UInt64.size) ∧
      ∀ before caller event after middle, moves = before ++ .dispatch caller event :: after →
        (fresh threshold).run before = some middle → middle.running = true →
          ∃ later, ((fresh threshold).fates moves).filterMap Fate.accepted? =
            ((fresh threshold).fates before).filterMap Fate.processed? ++ middle.waitingEvents ++
              event :: later := by
  obtain ⟨order, dispatched, counted, delivered⟩ := accounts_fresh run
  refine ⟨order, dispatched, counted, delivered, ?_, ?_⟩
  next =>
    intro few
    obtain ⟨fewDispatched, fewCounted⟩ := counts_le run
    omega
  next =>
    rintro before caller event after middle rfl reached running
    rw [(accounts_fresh reached).1]
    exact accepted_of_dispatch run reached running

def handedOver : List (Move Unit) :=
  let first : Event := .application { application := "first", kind := .run }
  let second : Event := .task { application := "second", task := "t" }
  [.dispatch .outside first, .register .application (), .start .outside true,
   .dispatch .outside first, .dispatch .outside second, .receive 0, .stop (.consumer 0),
   .start (.consumer 0) true, .dispatch (.consumer 0) first, .stop (.consumer 0), .finish 0,
   .receive 0, .receive 0, .exit 0, .start .outside true, .receive 1]

theorem processed_append_waiting_handedOver :
    ∃ d, (fresh 0).run handedOver = some d ∧
      ((fresh 0).fates handedOver).filterMap Fate.processed? ++ d.waitingEvents =
        ((fresh 0).fates handedOver).filterMap Fate.accepted? ∧
      d.queue.length = 1 ∧ ((fresh 0).fates handedOver).length = 7 := by
  have possible : ((fresh 0).run handedOver).isSome := rfl
  obtain ⟨d, run⟩ := Option.isSome_iff_exists.mp possible
  have queue : ((fresh 0).run handedOver).map (·.queue.length) = some 1 := rfl
  exact ⟨d, run, (processed_append_waiting run).1, by simpa [run] using queue, rfl⟩

end Dispatcher

end GangScheduling
