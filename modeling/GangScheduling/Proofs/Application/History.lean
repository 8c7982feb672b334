import GangScheduling.Proofs.Application.Edit
import GangScheduling.Proofs.Application.Schedule

set_option autoImplicit false

namespace GangScheduling

def Job.reserves? : Job → Option String
  | .reserve reservation _ => some reservation.application
  | _ => none

namespace Effect

def description? : Effect → Option AddApplication
  | .submit description => some description
  | _ => none

def job? : Effect → Option Job
  | .spawn job => some job
  | _ => none

def recorded : Effect → List PodEvent
  | .record event => [event]
  | _ => []

end Effect

namespace Application

inductive Call
  | handle (event : ApplicationEvent)
  | schedule
  | recover
  | edit (edit : Edit)

-- A call that is refused changes nothing and asks for nothing.
def call (app : Application) : Call → Application × List Effect
  | .handle event => (app.handle event).toOption.getD (app, [])
  | .schedule => app.schedule
  | .recover => app.recover.toOption.getD (app, [])
  | .edit edit => (app.edit edit, [])

def after (app : Application) (calls : List Call) : Application :=
  calls.foldl (fun app call => (app.call call).1) app

def visited : Application → List Call → List ApplicationState
  | app, [] => [app.state]
  | app, call :: rest => app.state :: visited (app.call call).1 rest

def Call.event? (app : Application) : Call → Option ApplicationEvent
  | .handle event => some event
  | .schedule => if app.state = .new then some (.submit app.id) else none
  | .recover => some { application := app.id, kind := .recover }
  | .edit _ => none

-- A call on an application as it is just before.
structure Turn where
  app : Application
  call : Call

namespace Turn

def asked (turn : Turn) : List Effect :=
  (turn.app.call turn.call).2

def handled (turn : Turn) : List ApplicationEvent :=
  ((turn.call.event? turn.app).filter fun event => turn.app.canHandle event.kind).toList

end Turn

def turns : Application → List Call → List Turn
  | _, [] => []
  | app, call :: rest => { app, call } :: turns (app.call call).1 rest

def submitted (effects : List Effect) : List String :=
  (effects.filterMap Effect.description?).map (·.application)

def reserved (effects : List Effect) : List String :=
  (effects.filterMap Effect.job?).filterMap Job.reserves?

variable {app next : Application} {event : ApplicationEvent} {effects : List Effect}

theorem submitted_append (first second : List Effect) :
    submitted (first ++ second) = submitted first ++ submitted second := by
  simp [submitted]

theorem reserved_append (first second : List Effect) :
    reserved (first ++ second) = reserved first ++ reserved second := by
  simp [reserved]

theorem submitted_of_none (none : ∀ effect ∈ effects, effect.description? = none) :
    submitted effects = [] := by
  rw [submitted, List.filterMap_eq_nil_iff.mpr none, List.map_nil]

theorem reserved_of_none
    (none : ∀ effect ∈ effects, ∀ job, effect = .spawn job → job.reserves? = none) :
    reserved effects = [] := by
  rw [reserved, List.filterMap_eq_nil_iff]
  intro job spawned
  obtain ⟨effect, member, same⟩ := List.mem_filterMap.mp spawned
  cases effect with
  | spawn other =>
    cases same
    exact none _ member _ rfl
  | _ => cases same

theorem handled_of_event {call : Call} (given : call.event? app = some event) :
    Turn.handled { app, call } = if app.canHandle event.kind then [event] else [] := by
  cases legal : app.canHandle event.kind <;> simp [Turn.handled, given, Option.filter, legal]

theorem submitted_respond (app : Application) (event : ApplicationEvent) :
    submitted (app.respond event).2 =
      if event.kind = .submit ∨ event.kind = .recover then [app.id] else [] := by
  by_cases fresh : event.kind = .submit ∨ event.kind = .recover
  next =>
    rw [if_pos fresh]
    cases fresh with
    | inl submit => simp only [respond, submit]; rfl
    | inr recover => simp only [respond, recover]; rfl
  next =>
    rw [if_neg fresh]
    refine submitted_of_none fun effect member => ?_
    cases asks_of_respond member with
    | submission ask kind => exact absurd kind fresh
    | _ => rfl

theorem reserved_respond (app : Application) (event : ApplicationEvent) :
    reserved (app.respond event).2 = [] := by
  refine reserved_of_none fun effect member job same => ?_
  subst same
  cases asks_of_respond member with
  | reserve kind => simp [respond, kind] at member
  | cleanUp => rfl

theorem submitted_enter (app : Application) (state : ApplicationState) :
    submitted (app.enter state) = [] := by
  cases state <;> rfl

theorem reserved_enter (app : Application) (state : ApplicationState) :
    reserved (app.enter state) = if state = .reserving then [app.id] else [] := by
  cases state <;> rfl

theorem effects_of_handle (handled : app.handle event = .ok (next, effects)) :
    ∃ moved : Application, moved.id = app.id ∧ effects =
      (if next.state = app.state then [] else moved.enter next.state) ++ (moved.respond event).2 := by
  have route := (handle_ok handled).1
  simp only [handle, route, Except.ok.injEq, Prod.mk.injEq] at handled
  exact ⟨{ app with state := next.state }, rfl, handled.2.symm⟩

theorem submitted_handle (handled : app.handle event = .ok (next, effects)) :
    submitted effects = if app.state = .new then [app.id] else [] := by
  have fresh := Lifecycle.new_iff_of_next (handle_ok handled).1
  obtain ⟨moved, own, rfl⟩ := effects_of_handle handled
  simp only [submitted_append, submitted_respond, fresh, own]
  split
  next => exact List.nil_append _
  next => rw [submitted_enter, List.nil_append]

theorem reserved_handle (handled : app.handle event = .ok (next, effects)) :
    reserved effects =
      if app.state ≠ .reserving ∧ next.state = .reserving then [app.id] else [] := by
  obtain ⟨moved, own, rfl⟩ := effects_of_handle handled
  rw [reserved_append, reserved_respond, List.append_nil]
  split
  next same =>
    rw [if_neg fun entered => entered.1 (same ▸ entered.2)]
    rfl
  next left =>
    rw [reserved_enter, own]
    by_cases entered : next.state = .reserving
    next => simp [entered, Ne.symm (entered ▸ left)]
    next => simp [entered]

theorem call_cases (app : Application) (call : Call) :
    (∃ event, app.handle event = .ok (app.call call)) ∨
      ((app.call call).1 = app ∧ ∀ effect ∈ (app.call call).2, Sends app effect) ∨
      ∃ edit, call = .edit edit := by
  have taken (event : ApplicationEvent) (result : Except Error (Application × List Effect))
      (given : app.handle event = result) :
      (∃ event, app.handle event = .ok (result.toOption.getD (app, []))) ∨
        (result.toOption.getD (app, [])).1 = app ∧
          ∀ effect ∈ (result.toOption.getD (app, [])).2, Sends app effect := by
    cases result with
    | ok pair => exact .inl ⟨event, given⟩
    | error fault => exact .inr ⟨rfl, fun effect member => nomatch member⟩
  cases call with
  | handle event => exact (taken event _ rfl).imp_right .inl
  | recover => exact (taken _ _ rfl).imp_right .inl
  | edit edit => exact .inr (.inr ⟨edit, rfl⟩)
  | schedule =>
    by_cases fresh : app.state = .new
    next => exact .inl ⟨_, schedule_new fresh⟩
    next => exact .inr (.inl (schedule_not_new fresh))

-- The calls that take no event leave the state, and neither submit nor reserve.
structure Minor (app : Application) (result : Application × List Effect) : Prop where
  id : result.1.id = app.id
  state : result.1.state = app.state
  submitted : submitted result.2 = []
  reserved : reserved result.2 = []

theorem Minor.of_sends {result : Application × List Effect} (same : result.1 = app)
    (sends : ∀ effect ∈ result.2, Sends app effect) : Minor app result where
  id := congrArg _ same
  state := congrArg _ same
  submitted := submitted_of_none fun effect member => by cases sends effect member <;> rfl
  reserved := reserved_of_none fun effect member job spawned => by
    subst spawned
    cases sends _ member

theorem handled_or_minor (app : Application) (call : Call) :
    (∃ event, app.handle event = .ok (app.call call)) ∨ Minor app (app.call call) := by
  obtain handled | ⟨same, sends⟩ | ⟨edit, rfl⟩ := call_cases app call
  next => exact .inl handled
  next => exact .inr (.of_sends same sends)
  next => exact .inr ⟨(app.edit_frame edit).1, (app.edit_frame edit).2, rfl, rfl⟩

theorem id_call (app : Application) (call : Call) : (app.call call).1.id = app.id := by
  cases handled_or_minor app call with
  | inl handled =>
    obtain ⟨event, handled⟩ := handled
    exact (handle_ok handled).2.1
  | inr minor => exact minor.id

theorem state_call (app : Application) (call : Call) :
    (app.call call).1.state = app.state ∨
      app.state.stage < (app.call call).1.state.stage := by
  cases handled_or_minor app call with
  | inl handled =>
    obtain ⟨event, handled⟩ := handled
    exact Lifecycle.next_stage (handle_ok handled).1
  | inr minor => exact .inl minor.state

theorem submitted_call (app : Application) (call : Call) :
    submitted (app.call call).2 =
      if app.state = .new ∧ (app.call call).1.state ≠ .new then [app.id] else [] := by
  cases handled_or_minor app call with
  | inl handled =>
    obtain ⟨event, handled⟩ := handled
    generalize app.call call = result at handled ⊢
    obtain ⟨after, effects⟩ := result
    have left := Lifecycle.ne_new_of_next (handle_ok handled).1
    simp [submitted_handle handled, left]
  | inr minor =>
    rw [minor.submitted, minor.state, if_neg]
    exact fun fresh => fresh.2 fresh.1

theorem reserved_call (app : Application) (call : Call) :
    reserved (app.call call).2 =
      if app.state ≠ .reserving ∧ (app.call call).1.state = .reserving then [app.id] else [] := by
  cases handled_or_minor app call with
  | inl handled =>
    obtain ⟨event, handled⟩ := handled
    exact reserved_handle handled
  | inr minor =>
    rw [minor.reserved, minor.state, if_neg]
    exact fun entered => entered.1 entered.2

theorem state_visited {calls : List Call} {state : ApplicationState}
    (met : state ∈ app.visited calls) : state = app.state ∨ app.state.stage < state.stage := by
  induction calls generalizing app with
  | nil => exact .inl (List.mem_singleton.mp met)
  | cons call rest ih =>
    cases List.mem_cons.mp met with
    | inl now => exact .inl now
    | inr later =>
      have first := state_call app call
      cases ih later with
      | inl same => exact same ▸ first
      | inr beyond =>
        right
        cases first with
        | inl stayed => exact stayed ▸ beyond
        | inr moved => exact Nat.lt_trans moved beyond

theorem mem_visited_self (app : Application) (calls : List Call) :
    app.state ∈ app.visited calls := by
  cases calls <;> simp [visited]

theorem mem_visited_after (app : Application) (calls : List Call) :
    (app.after calls).state ∈ app.visited calls := by
  induction calls generalizing app with
  | nil => exact List.mem_singleton.mpr rfl
  | cons call rest ih => exact List.mem_cons_of_mem _ (ih _)

theorem not_mem_visited_of_left {earlier : Application} (calls : List Call) {rest : List Call}
    (left : (earlier.after calls).state ≠ earlier.state) :
    earlier.state ∉ (earlier.after calls).visited rest := by
  intro again
  have away := (state_visited (mem_visited_after earlier calls)).resolve_left left
  cases state_visited again with
  | inl same => exact left same.symm
  | inr beyond => omega

theorem submitted_turns (app : Application) (calls : List Call) :
    submitted ((app.turns calls).flatMap Turn.asked) =
      if app.state = .new ∧ (app.after calls).state ≠ .new then [app.id] else [] := by
  induction calls generalizing app with
  | nil => simp [turns, after, submitted]
  | cons call rest ih =>
    have step : app.after (call :: rest) = (app.call call).1.after rest := rfl
    rw [turns, List.flatMap_cons, submitted_append, ih, Turn.asked, submitted_call, step, id_call]
    by_cases fresh : app.state = .new
    next =>
      by_cases stayed : (app.call call).1.state = .new
      next => simp [fresh, stayed]
      next =>
        have gone : ((app.call call).1.after rest).state ≠ .new := by
          intro again
          have met := mem_visited_after (app.call call).1 rest
          rw [again, ← fresh] at met
          exact not_mem_visited_of_left [call] (by rwa [fresh]) met
        simp [fresh, stayed, gone]
    next =>
      have gone : (app.call call).1.state ≠ .new := by
        intro again
        cases state_call app call with
        | inl same => exact fresh (same ▸ again)
        | inr moved => simp [again, ApplicationState.stage] at moved
      simp [fresh, gone]

theorem reserved_turns (app : Application) (calls : List Call) :
    reserved ((app.turns calls).flatMap Turn.asked) =
      if app.state ≠ .reserving ∧ .reserving ∈ app.visited calls then [app.id] else [] := by
  induction calls generalizing app with
  | nil => simp [turns, visited, reserved, eq_comm]
  | cons call rest ih =>
    rw [turns, List.flatMap_cons, reserved_append, ih, Turn.asked, reserved_call, visited, id_call]
    by_cases reserving : app.state = .reserving
    next =>
      by_cases stayed : (app.call call).1.state = .reserving
      next => simp [reserving, stayed]
      next =>
        have gone : .reserving ∉ (app.call call).1.visited rest := by
          rw [← reserving]
          exact not_mem_visited_of_left [call] (by rwa [reserving])
        simp [reserving, gone]
    next =>
      by_cases entered : (app.call call).1.state = .reserving
      next =>
        have met : .reserving ∈ (app.call call).1.visited rest := by
          rw [← entered]
          exact mem_visited_self _ rest
        simp [reserving, entered, met]
      next => simp [reserving, entered, Ne.symm reserving]

end Application

end GangScheduling
