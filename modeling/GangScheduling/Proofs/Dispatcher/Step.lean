import GangScheduling.Dispatcher

set_option autoImplicit false

namespace GangScheduling

namespace Dispatcher

variable {H : Type}

def fresh (threshold : Nat) : Dispatcher H :=
  { threshold }

def Move.isPanic : Move H → Bool
  | .panic _ => true
  | _ => false

inductive Receives (d : Dispatcher H) (consumer : Nat) : Received H → Dispatcher H → Prop
  | handled (event : Event) (handler : H) (rest : List Entry)
      (first : d.queue = .event event :: rest) (found : d.handler? event.category = some handler) :
      Receives d consumer (.handled handler event)
        { d.turn consumer .handling with queue := rest, delivered := d.delivered + 1 }
  | unhandled (event : Event) (rest : List Entry)
      (first : d.queue = .event event :: rest) (missing : d.handler? event.category = none) :
      Receives d consumer (.unhandled event) { d with queue := rest, dropped := d.dropped + 1 }
  | stale (rest : List Entry) (first : d.queue = .stop :: rest) (running : d.running = true) :
      Receives d consumer .staleMarker { d with queue := rest }
  | final (rest : List Entry) (first : d.queue = .stop :: rest) (stopped : d.running = false) :
      Receives d consumer .finalMarker { d.turn consumer .leaving with queue := rest }

theorem receive_cases {d next : Dispatcher H} {consumer : Nat} {received : Received H}
    (h : d.receive consumer = some (received, next)) :
    d.activity? consumer = some .waiting ∧ Receives d consumer received next := by
  unfold receive at h
  split at h
  next event rest waiting first =>
    refine ⟨waiting, ?_⟩
    split at h
    next handler found =>
      cases h
      exact .handled event handler rest first found
    next missing =>
      cases h
      exact .unhandled event rest first missing
  next rest waiting first =>
    refine ⟨waiting, ?_⟩
    split at h
    next running =>
      cases h
      exact .stale rest first running
    next stopped =>
      cases h
      exact .final rest first (Bool.not_eq_true _ ▸ stopped)
  next => cases h

inductive Step (d : Dispatcher H) : Move H → Dispatcher H → Prop
  | register (category : Category) (handler : H) :
      Step d (.register category handler) (d.register category handler)
  | accept (caller : Caller) (event : Event) (running : d.running = true) :
      Step d (.dispatch caller event) (d.enqueue event).checkBacklog.1
  | refuse (caller : Caller) (event : Event) (stopped : d.running = false) :
      Step d (.dispatch caller event) { d with dropped := d.dropped + 1 }
  | keep (caller : Caller) (threadAvailable : Bool) (running : d.running = true) :
      Step d (.start caller threadAvailable) d
  | restart (consumer : Nat) (threadAvailable : Bool) (stopped : d.running = false)
      (current : d.current = some consumer) (handling : d.activity? consumer = some .handling) :
      Step d (.start (.consumer consumer) threadAvailable) { d with running := true }
  | spawn (caller : Caller) (stopped : d.running = false) (free : d.current = none) :
      Step d (.start caller true) d.spawn.1
  | noThread (caller : Caller) (stopped : d.running = false) (free : d.current = none) :
      Step d (.start caller false) d
  | stop (caller : Caller) (running : d.running = true) :
      Step d (.stop caller) { d with running := false, queue := d.queue ++ [.stop] }
  | stopAgain (caller : Caller) (stopped : d.running = false) : Step d (.stop caller) d
  | receive (consumer : Nat) (received : Received H) (next : Dispatcher H)
      (waiting : d.activity? consumer = some .waiting)
      (receives : Receives d consumer received next) : Step d (.receive consumer) next
  | finish (consumer : Nat) (handling : d.activity? consumer = some .handling) :
      Step d (.finish consumer) (d.finish consumer)
  | panic (consumer : Nat) (handling : d.activity? consumer = some .handling) :
      Step d (.panic consumer) (d.panic consumer)
  | exit (consumer : Nat) (leaving : d.activity? consumer = some .leaving) :
      Step d (.exit consumer) (d.leave consumer)

theorem checkBacklog_frame (d : Dispatcher H) :
    d.checkBacklog.1.running = d.running ∧ d.checkBacklog.1.consumers = d.consumers ∧
      d.checkBacklog.1.current = d.current ∧ d.checkBacklog.1.queue = d.queue ∧
      d.checkBacklog.1.handlers = d.handlers := by
  unfold checkBacklog
  split <;> exact ⟨rfl, rfl, rfl, rfl, rfl⟩

theorem step_dispatch {d : Dispatcher H} (caller : Caller) (event : Event) :
    Step d (.dispatch caller event) (d.dispatch event).1 := by
  unfold dispatch
  split
  next running => exact .accept caller event running
  next stopped => exact .refuse caller event (Bool.not_eq_true _ ▸ stopped)

theorem step_stop {d : Dispatcher H} (caller : Caller) : Step d (.stop caller) d.stop := by
  unfold Dispatcher.stop
  split
  next running => exact .stop caller running
  next stopped => exact .stopAgain caller (Bool.not_eq_true _ ▸ stopped)

theorem step_start {d next : Dispatcher H} {caller : Caller} {threadAvailable : Bool}
    (h : d.step (.start caller threadAvailable) = some next) :
    Step d (.start caller threadAvailable) next := by
  simp only [step] at h
  split at h
  next present =>
    unfold Dispatcher.start at h
    by_cases running : d.running = true
    next =>
      simp only [running, if_true, Option.some.injEq] at h
      exact h ▸ .keep caller threadAvailable running
    next =>
      have stopped : d.running = false := Bool.not_eq_true _ ▸ running
      cases current : d.current with
      | none =>
        cases threadAvailable with
        | true =>
          simp only [stopped, current, Bool.false_eq_true, if_false, if_true,
            Option.some.injEq] at h
          exact h ▸ .spawn caller stopped current
        | false =>
          simp only [stopped, current, Bool.false_eq_true, if_false, Option.some.injEq] at h
          exact h ▸ .noThread caller stopped current
      | some consumer =>
        by_cases own : caller = .consumer consumer
        next =>
          subst own
          simp only [stopped, current, Bool.false_eq_true, if_false, if_true,
            Option.some.injEq] at h
          have handling : d.activity? consumer = some .handling := by
            simpa [Dispatcher.present] using present
          rw [← h, ← current]
          exact .restart consumer threadAvailable stopped current handling
        next => simp [stopped, current, own] at h
  next => cases h

theorem step_cases {d next : Dispatcher H} {move : Move H} (h : d.step move = some next) :
    Step d move next := by
  cases move with
  | register category handler =>
    cases h
    exact .register category handler
  | dispatch caller event =>
    simp only [step, Option.ite_none_right_eq_some, Option.some.injEq] at h
    obtain ⟨-, rfl⟩ := h
    exact step_dispatch caller event
  | start caller threadAvailable => exact step_start h
  | stop caller =>
    simp only [step, Option.ite_none_right_eq_some, Option.some.injEq] at h
    obtain ⟨-, rfl⟩ := h
    exact step_stop caller
  | receive consumer =>
    simp only [step, Option.map_eq_some_iff] at h
    obtain ⟨⟨received, after⟩, taken, rfl⟩ := h
    obtain ⟨waiting, receives⟩ := receive_cases taken
    exact .receive consumer received after waiting receives
  | finish consumer =>
    simp only [step, Option.ite_none_right_eq_some, Option.some.injEq] at h
    obtain ⟨handling, rfl⟩ := h
    exact .finish consumer handling
  | panic consumer =>
    simp only [step, Option.ite_none_right_eq_some, Option.some.injEq] at h
    obtain ⟨handling, rfl⟩ := h
    exact .panic consumer handling
  | exit consumer =>
    simp only [step, Option.ite_none_right_eq_some, Option.some.injEq] at h
    obtain ⟨leaving, rfl⟩ := h
    exact .exit consumer leaving

end Dispatcher

end GangScheduling
