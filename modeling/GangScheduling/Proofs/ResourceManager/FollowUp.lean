import GangScheduling.Proofs.Application.Handle
import GangScheduling.Proofs.Dispatcher.Ledger
import GangScheduling.Proofs.ResourceManager.Pods
import GangScheduling.Proofs.ResourceManager.Solo
import GangScheduling.Proofs.ResourceManager.Trail
import Mathlib.Data.List.Perm.Basic

set_option autoImplicit false

namespace GangScheduling

theorem Dispatcher.dispatchAll_running {H : Type} {d : Dispatcher H} (running : d.running = true)
    (events : List Event) :
    (d.dispatchAll events).1.queue = d.queue ++ events.map .event ∧
      (d.dispatchAll events).1.delivered = d.delivered := by
  induction events generalizing d with
  | nil => exact ⟨(List.append_nil _).symm, rfl⟩
  | cons event rest ih =>
    obtain ⟨runs, -, -, queue, -⟩ := checkBacklog_frame (d.enqueue event)
    have delivered := (checkBacklog_counts (d.enqueue event)).2.1
    have accepted : (d.dispatch event).1 = (d.enqueue event).checkBacklog.1 := by
      rw [dispatch, if_pos running]
    rw [← accepted] at runs queue delivered
    obtain ⟨later, still⟩ := ih (runs.trans running)
    have entries : (d.enqueue event).queue ++ rest.map .event =
        d.queue ++ (event :: rest).map .event :=
      List.append_assoc _ _ _
    exact ⟨later.trans (queue ▸ entries), still.trans delivered⟩

def Effect.isLight : Effect → Bool
  | .record _ | .note _ => true
  | _ => false

namespace Application

variable {app after : Application} {event : ApplicationEvent} {effects : List Effect}

theorem light_of_notices (notices : List Notice) :
    ∀ effect ∈ notices.map Effect.note, effect.isLight = true := by
  intro effect member
  obtain ⟨notice, -, rfl⟩ := List.mem_map.mp member
  rfl

theorem light_of_onFail (app : Application) (event : ApplicationEvent) :
    ∀ effect ∈ (app.onFail event).tail, effect.isLight = true := by
  intro effect member
  simp only [onFail, List.tail_cons] at member
  split at member
  next =>
    obtain ⟨recorded, -, rfl⟩ := List.mem_map.mp member
    rfl
  next =>
    cases List.mem_singleton.mp member
    rfl

theorem light_of_respond (app : Application) (event : ApplicationEvent) :
    ∀ effect ∈ (app.respond event).2.tail, effect.isLight = true := by
  intro effect member
  unfold respond at member
  split at member
  case h_5 => exact light_of_onFail app event effect member
  case h_6 =>
    dsimp only at member
    split at member <;> cases member
  case h_7 =>
    unfold onReleaseAllocation at member
    split at member <;> exact light_of_notices _ effect (List.mem_of_mem_tail member)
  case h_8 =>
    unfold onReleaseAllocationAsk at member
    split at member
    next => exact light_of_notices _ effect (List.mem_of_mem_tail member)
    next => split at member <;> exact light_of_notices _ effect (List.mem_of_mem_tail member)
  all_goals cases member

theorem light_of_handle (handled : app.handle event = .ok (after, effects)) :
    ∀ effect ∈ effects.tail, effect.isLight = true := by
  by_cases reserves : event.kind = .tryReserve
  next =>
    -- Entering the reservation is all that is asked for then.
    have accepted := Lifecycle.state_of_tryReserve (reserves ▸ (handle_ok handled).1)
    rw [handle_tryReserve accepted reserves] at handled
    cases handled
    simp
  next =>
    obtain ⟨state, responded⟩ := respond_of_handle handled reserves
    have light := light_of_respond { app with state } event
    rwa [responded] at light

inductive Follows (app : Application) (kind : EventKind) : List Event → List Job → Prop
  | nothing (silent : kind ≠ .reject) : Follows app kind [] []
  | acceptance (fresh : kind = .submit ∨ kind = .recover) :
      Follows app kind [.application { application := app.id, kind := .accept }] []
  | failure (reason : String) (refused : kind = .submit ∨ kind = .recover ∨ kind = .reject) :
      Follows app kind [.application (.fail app.id reason)] []
  | run (changed : kind = .updateReservation) :
      Follows app kind [.application (.run app.id)] []
  | reserve (entered : kind = .tryReserve) :
      Follows app kind [] [.reserve app.reservation app.reservation.plan]
  | cleanUp (ended : kind = .complete ∨ kind = .fail) :
      Follows app kind [] [.cleanUp app.id false]

end Application

namespace ResourceManager

open Application (Asks Follows)

structure Adds (raised : List Event) (spawned : List Job) (m next : ResourceManager) : Prop where
  queue : next.dispatcher.queue = m.dispatcher.queue ++ raised.map .event
  jobs : next.jobs = m.jobs ++ spawned
  delivered : next.dispatcher.delivered = m.dispatcher.delivered

variable {m next : ResourceManager} {app after : Application} {event : ApplicationEvent}
  {effects : List Effect}

theorem Adds.of_same (dispatcher : next.dispatcher = m.dispatcher) (jobs : next.jobs = m.jobs) :
    Adds [] [] m next where
  queue := by simp [dispatcher]
  jobs := by simp [jobs]
  delivered := by rw [dispatcher]

theorem Adds.trans {middle : ResourceManager} {raised later : List Event} {spawned more : List Job}
    (first : Adds raised spawned m middle) (second : Adds later more middle next) :
    Adds (raised ++ later) (spawned ++ more) m next where
  queue := by rw [second.queue, first.queue, List.map_append, List.append_assoc]
  jobs := by rw [second.jobs, first.jobs, List.append_assoc]
  delivered := second.delivered.trans first.delivered

theorem Calls.adds {dispatched : List Event} {recorded : List PodEvent}
    (calls : Calls m dispatched recorded next) (running : m.dispatcher.running = true)
    (jobs : next.jobs = m.jobs) : Adds dispatched [] m next := by
  obtain ⟨queue, delivered⟩ := Dispatcher.dispatchAll_running running dispatched
  rw [← calls.dispatcher] at queue delivered
  exact ⟨queue, by rw [jobs, List.append_nil], delivered⟩

theorem adds_dispatch (running : m.dispatcher.running = true) (event : Event) :
    Adds [event] [] m (m.dispatch event) :=
  (calls_perform m (.dispatch event)).adds running rfl

theorem adds_receive (running : m.dispatcher.running = true) (response : UpdateResponse) :
    Adds (response.announced m.registry.knows) [] m (m.receive response) :=
  (calls_receive m response).adds running
    ((carriesOut_receive m response).jobs.trans (List.append_nil _))

theorem adds_announce (running : m.dispatcher.running = true) (kind : EventKind) (id : String) :
    Adds (if (m.registry.find? id).isSome then [.application { application := id, kind }] else [])
      [] m (m.announce kind id) := by
  unfold announce
  cases m.registry.find? id with
  | none => exact .of_same rfl rfl
  | some app => exact adds_dispatch running _

theorem adds_submit (running : m.dispatcher.running = true) (app : Application)
    (ask : Option Resource) {kind : EventKind} (fresh : kind = .submit ∨ kind = .recover) :
    ∃ raised, Follows app kind raised [] ∧ Adds raised [] m (m.submit (app.description ask)) := by
  have silent : kind ≠ .reject := by
    rintro rfl
    simp at fresh
  unfold submit
  split
  next fault _ =>
    have noted : Adds [] [] m
        (m.note [.submissionFailed (app.description ask).application fault]) := .of_same rfl rfl
    exact ⟨_, .failure fault.message (fresh.imp_right .inl),
      noted.trans (adds_dispatch (m := m.note _) running _)⟩
  next => exact ⟨[], .nothing silent, .of_same rfl rfl⟩
  next scheduler receiver response updated =>
    -- The answer within the request names just the application that is submitted.
    cases (update_frame updated).2 receiver response rfl
    have taken : Adds [] [] m { m with scheduler } := .of_same rfl rfl
    refine ⟨_, ?_, taken.trans (adds_announce (m := { m with scheduler }) running .accept app.id)⟩
    cases m.registry.find? app.id with
    | none => exact .nothing silent
    | some found => exact .acceptance fresh

theorem performAll_light (m : ResourceManager)
    (light : ∀ effect ∈ effects, effect.isLight = true) :
    (m.performAll effects).dispatcher = m.dispatcher ∧ (m.performAll effects).jobs = m.jobs := by
  induction effects generalizing m with
  | nil => exact ⟨rfl, rfl⟩
  | cons effect rest ih =>
    have later := ih (m.perform effect) fun other member => light other (.tail _ member)
    have first : (m.perform effect).dispatcher = m.dispatcher ∧
        (m.perform effect).jobs = m.jobs := by
      have said := light effect List.mem_cons_self
      cases effect with
      | record event => exact ⟨rfl, rfl⟩
      | note notice => exact ⟨rfl, rfl⟩
      | _ => cases said
    exact ⟨later.1.trans first.1, later.2.trans first.2⟩

theorem adds_perform (running : m.dispatcher.running = true) {kind : EventKind} {effect : Effect}
    (asked : Asks app kind effect) (loud : effect.isLight = false) :
    ∃ raised spawned, Follows app kind raised spawned ∧ Adds raised spawned m (m.perform effect) := by
  cases asked with
  | submission ask fresh =>
    obtain ⟨raised, follows, adds⟩ := adds_submit running app ask fresh
    exact ⟨raised, [], follows, adds⟩
  | failure reason rejected =>
    exact ⟨_, _, .failure reason (.inr (.inr rejected)), adds_dispatch running _⟩
  | run changed => exact ⟨_, _, .run changed, adds_dispatch running _⟩
  | cleanUp ended => exact ⟨_, _, .cleanUp ended, (List.append_nil _).symm, rfl, rfl⟩
  | reserve entered => exact ⟨_, _, .reserve entered, (List.append_nil _).symm, rfl, rfl⟩
  | record event => cases loud
  | note notice => cases loud

theorem adds_of_handle (running : m.dispatcher.running = true)
    (handled : app.handle event = .ok (after, effects)) :
    ∃ raised spawned, Follows app event.kind raised spawned ∧
      Adds raised spawned m (m.performAll effects) := by
  obtain ⟨-, -, asked⟩ := Application.handle_ok handled
  have light := Application.light_of_handle handled
  -- A rejection does not go without its failure.
  have silent (all : ∀ effect ∈ effects, effect.isLight = true) : event.kind ≠ .reject := by
    intro rejected
    obtain ⟨reason, sent⟩ := Application.failure_of_handle handled rejected
    cases all _ sent
  cases effects with
  | nil => exact ⟨[], [], .nothing (silent (by simp)), .of_same rfl rfl⟩
  | cons first rest =>
    obtain ⟨dispatcher, jobs⟩ := performAll_light (m.perform first) light
    cases loud : first.isLight with
    | true =>
      have all : ∀ effect ∈ first :: rest, effect.isLight = true :=
        List.forall_mem_cons.mpr ⟨loud, light⟩
      obtain ⟨sameDispatcher, sameJobs⟩ := performAll_light m all
      exact ⟨[], [], .nothing (silent all), .of_same sameDispatcher sameJobs⟩
    | false =>
      obtain ⟨raised, spawned, follows, adds⟩ :=
        adds_perform running (asked first List.mem_cons_self) loud
      have whole := adds.trans (.of_same dispatcher jobs)
      rw [List.append_nil, List.append_nil] at whole
      exact ⟨raised, spawned, follows, whole⟩

inductive Consumes (m next : ResourceManager) (entry : Entry) (rest : List Entry) : Prop
  | passes (registry : next.registry = m.registry) (queue : next.dispatcher.queue = rest)
      (jobs : next.jobs = m.jobs)
      (illegal : ∀ event, entry = .event (.application event) →
        ∀ app, m.registry.find? event.application = some app → app.canHandle event.kind = false)
  | handles (event : ApplicationEvent) (app after : Application) (effects : List Effect)
      (raised : List Event) (spawned : List Job)
      (same : entry = .event (.application event))
      (found : m.registry.find? event.application = some app)
      (handled : app.handle event = .ok (after, effects))
      (registry : next.registry = (m.update after).registry)
      (queue : next.dispatcher.queue = rest ++ raised.map .event)
      (jobs : next.jobs = m.jobs ++ spawned)
      (follows : Follows app event.kind raised spawned)

structure Around (m next : ResourceManager) : Prop where
  attentive : next.dispatcher.Attentive
  placeholders : next.placeholders = m.placeholders
  delivered : next.dispatcher.delivered ≤ m.dispatcher.delivered + 1

theorem consumes_application {number : Nat} {rest : List Entry}
    (attentive : m.dispatcher.Attentive) (alive : m.dispatcher.consumers = [(number, .waiting)])
    (queue : m.dispatcher.queue = .event (.application event) :: rest) :
    ∃ next, m.advance (fun _ => false) = some next ∧ Around m next ∧
      Consumes m next (.event (.application event)) rest := by
  refine ⟨_, advance_handing alive queue attentive.handles, ?_⟩
  cases found : m.registry.find? event.application with
  | none =>
    simp only [deliver, handle, Registry.lookup, found]
    refine ⟨⟨attentive_finish attentive alive rfl rfl rfl, rfl, Nat.le_refl _⟩, ?_⟩
    refine .passes rfl rfl rfl ?_
    rintro _ ⟨⟩ app present
    cases found.symm.trans present
  | some app =>
    cases handled : app.handle event with
    | error fault =>
      simp only [deliver, handle, Registry.lookup, found, handled]
      refine ⟨⟨attentive_finish attentive alive rfl rfl rfl, rfl, Nat.le_refl _⟩, ?_⟩
      refine .passes rfl rfl rfl ?_
      rintro _ ⟨⟩ other present
      cases found.symm.trans present
      exact Application.illegal_of_handle handled
    | ok result =>
      obtain ⟨after, effects⟩ := result
      simp only [deliver, handle, Registry.lookup, found, handled]
      obtain ⟨raised, spawned, follows, adds⟩ := adds_of_handle
        (m := { m with dispatcher := handing m.dispatcher number rest }.update after)
        attentive.running handled
      have frame := extends_performAll
        ({ m with dispatcher := handing m.dispatcher number rest }.update after) effects
      refine ⟨⟨?_, (carriesOut_performAll _ effects).placeholders, Nat.le_of_eq adds.delivered⟩, ?_⟩
      next => exact attentive_finish attentive alive frame.running frame.consumers frame.handlers
      next =>
        exact .handles event app after effects raised spawned rfl found handled frame.registry
          adds.queue adds.jobs follows

theorem consumes_of_queue {entry : Entry} {rest : List Entry} (attentive : m.dispatcher.Attentive)
    (queue : m.dispatcher.queue = entry :: rest) :
    ∃ next, m.advance (fun _ => false) = some next ∧ Around m next ∧ Consumes m next entry rest := by
  obtain ⟨number, alive⟩ := attentive.waiting
  have waits : m.dispatcher.activity? number = some .waiting := by
    simp [Dispatcher.activity?, alive]
  cases entry with
  | stop =>
    refine ⟨{ m with dispatcher := { m.dispatcher with queue := rest } }, ?_, ?_, ?_⟩
    next =>
      simp [advance, alive, Dispatcher.receive, waits, queue, attentive.running]
    next => exact ⟨attentive.of_same rfl rfl rfl, rfl, Nat.le_succ _⟩
    next => exact .passes rfl rfl rfl (by rintro _ ⟨⟩)
  | event event =>
    cases event with
    | application event => exact consumes_application attentive alive queue
    | task event =>
      cases handles : m.dispatcher.handler? (Event.task event).category with
      | some handler =>
        refine ⟨_, advance_handing alive queue (by rw [handles]; rfl), ?_, ?_⟩
        next => exact ⟨attentive_finish attentive alive rfl rfl rfl, rfl, Nat.le_refl _⟩
        next => exact .passes rfl rfl rfl (by rintro _ ⟨⟩)
      | none =>
        refine ⟨{ m with dispatcher := { m.dispatcher with
          queue := rest, dropped := m.dispatcher.dropped + 1 } }.note
            [.eventUnhandled (Event.task event).category (Event.task event).applicationId],
          ?_, ?_, ?_⟩
        next => simp [advance, alive, Dispatcher.receive, waits, queue, handles]
        next => exact ⟨attentive.of_same rfl rfl rfl, rfl, Nat.le_succ _⟩
        next => exact .passes rfl rfl rfl (by rintro _ ⟨⟩)

def closing : Job → List Event
  | .delete application [] true => [.application (.run application)]
  | _ => []

theorem adds_stepJob (running : m.dispatcher.running = true) {job : Job}
    (own : job ≠ .beginLoop) : Adds (closing job) [] m (m.stepJob job).1 := by
  cases job with
  | beginLoop => exact absurd rfl own
  | reserve reservation plan =>
    match plan with
    | [] => exact .of_same rfl rfl
    | (group, 0) :: rest => exact .of_same rfl rfl
    | (group, missing + 1) :: rest =>
      simp only [stepJob]
      split <;> exact .of_same rfl rfl
  | cleanUp application thenRun => exact .of_same rfl rfl
  | delete application pods thenRun =>
    cases pods with
    | cons pod rest => exact .of_same rfl rfl
    | nil =>
      cases thenRun with
      | true => exact adds_dispatch running _
      | false => exact .of_same rfl rfl

theorem work_perm {index : Nat} {job : Job} (held : m.jobs[index]? = some job)
    (own : job ≠ .beginLoop) :
    ∃ jobs others, m.work index = { (m.stepJob job).1 with jobs } ∧
      m.jobs.Perm (job :: others) ∧ jobs.Perm ((m.stepJob job).2.toList ++ others) := by
  obtain ⟨within, here⟩ := List.getElem?_eq_some_iff.mp held
  have touched : m.jobs.Perm (job :: m.jobs.eraseIdx index) := by
    rw [← here]
    exact (List.getElem_cons_eraseIdx_perm within).symm
  rw [work_of_held held own]
  cases stepped : m.stepJob job with
  | mk next left =>
    cases left with
    | none => exact ⟨_, _, rfl, touched, .refl _⟩
    | some rest => exact ⟨_, _, rfl, touched, List.set_perm_cons_eraseIdx within rest⟩

end ResourceManager

end GangScheduling
