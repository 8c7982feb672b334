import GangScheduling.Proofs.Application.Failure
import GangScheduling.Proofs.ResourceManager.CarryOut
import GangScheduling.Proofs.System.Atomic

set_option autoImplicit false

namespace GangScheduling

namespace System

open ResourceManager (CarriesOut)
open Application (submitted reserved FailsOnce)

/-- An application that leaves the registry is kept by its caller. -/
def follow (s : System) (holder : Holder) : Move → Holder
  | .unregister id => if holder = .registered id then .apart s.apart.length else holder
  | _ => holder

def followAll : System → Holder → List Move → Holder
  | _, holder, [] => holder
  | s, holder, move :: rest => (s.step move).followAll (s.follow holder move) rest

def call? (s : System) (holder : Holder) : Move → Option Application.Call
  | .edit place edit => if place = holder then some (.edit edit) else none
  | .handle place event => if place = holder then some (.handle event) else none
  | .schedule place => if place = holder then some .schedule else none
  | .advance =>
    match s.manager.delivery? with
    | some (.application event) =>
      if .registered event.application = holder then some (.handle event) else none
    | _ => none
  | _ => none

-- A call together with the component before and after the move that makes it.
structure Turn extends Application.Turn where
  before : ResourceManager
  after : ResourceManager

def turn? (s : System) (holder : Holder) (move : Move) : Option Turn :=
  match s.find? holder, s.call? holder move with
  | some app, some call =>
    some { app, call, before := s.manager, after := (s.step move).manager }
  | _, _ => none

/-- All that is done with an application in a run, wherever it is kept. -/
def turns : System → Holder → List Move → List Turn
  | _, _, [] => []
  | s, holder, move :: rest =>
    (s.turn? holder move).toList ++ (s.step move).turns (s.follow holder move) rest

def asked (s : System) (holder : Holder) (moves : List Move) : List Effect :=
  (s.turns holder moves).flatMap (·.asked)

def stateAfter (s : System) (holder : Holder) (moves : List Move) : Option ApplicationState :=
  ((s.run moves).find? (s.followAll holder moves)).map (·.state)

def visited : System → Holder → List Move → List ApplicationState
  | s, holder, [] => ((s.find? holder).map (·.state)).toList
  | s, holder, move :: rest =>
    ((s.find? holder).map (·.state)).toList ++ (s.step move).visited (s.follow holder move) rest

variable {s later : System} {holder other : Holder} {app current after : Application}
  {event : ApplicationEvent} {effects : List Effect}

theorem find?_put_of_ne (found : s.find? holder = some app) (sameId : after.id = app.id)
    (different : holder ≠ other) (present : s.find? other = some current) :
    (s.put holder after).find? other = some current := by
  cases other with
  | registered id => rw [registered_put found sameId present, if_neg different]
  | apart index =>
    cases holder with
    | registered id => exact present
    | apart place =>
      have away : place ≠ index := fun same => different (same ▸ rfl)
      exact (List.getElem?_set_ne away).trans present

theorem find?_apply_of_ne (found : s.find? holder = some app) (sameId : after.id = app.id)
    (different : holder ≠ other) (present : s.find? other = some current) :
    (s.apply holder (after, effects)).find? other = some current := by
  have put := find?_put_of_ne found sameId different present
  cases other with
  | registered id => rwa [registered_apply]
  | apart index => exact put

theorem find?_handle (found : s.find? holder = some app) (event : ApplicationEvent) :
    (s.handle holder event).find? holder = some (app.call (.handle event)).1 := by
  cases handled : app.handle event with
  | ok result =>
    obtain ⟨after, effects⟩ := result
    simp only [handle, found, handled, Application.call]
    exact find?_apply found (Application.handle_ok handled).2.1
  | error fault => simp [handle, found, handled, Application.call, Except.toOption]

theorem find?_handle_of_ne (different : holder ≠ other) (event : ApplicationEvent)
    (present : s.find? other = some current) :
    (s.handle holder event).find? other = some current := by
  rcases handle_cases s holder event with ⟨same, -⟩ | ⟨app, after, effects, found, handled, same, -⟩
  next => rwa [same]
  next =>
    rw [same]
    exact find?_apply_of_ne found (Application.handle_ok handled).2.1 different present

theorem id_schedule (app : Application) : app.schedule.1.id = app.id := by
  by_cases fresh : app.state = .new
  next => exact (Application.handle_ok (Application.schedule_new fresh)).2.1
  next => rw [(Application.schedule_not_new fresh).1]

theorem find?_schedule (found : s.find? holder = some app) :
    (s.schedule holder).find? holder = some (app.call .schedule).1 := by
  simp only [schedule, found, Application.call]
  exact find?_apply found (id_schedule app)

theorem find?_schedule_of_ne (different : holder ≠ other) (present : s.find? other = some current) :
    (s.schedule holder).find? other = some current := by
  cases found : s.find? holder with
  | none => simpa [schedule, found] using present
  | some app =>
    simp only [schedule, found]
    exact find?_apply_of_ne found (id_schedule app) different present

-- Nothing happens to the application, or one call is made on it and carried out.
inductive Moved (s : System) (holder : Holder) (app : Application) (move : Move) : Prop
  | still (uncalled : s.call? holder move = none)
      (found : (s.step move).find? (s.follow holder move) = some app)
  | called (call : Application.Call) (calls : s.call? holder move = some call)
      (found : (s.step move).find? (s.follow holder move) = some (app.call call).1)
      (carries : CarriesOut s.manager (app.call call).2 (s.step move).manager)

theorem find?_of_same (registry : later.manager.registry = s.manager.registry)
    (apart : later.apart = s.apart) (holder : Holder) : later.find? holder = s.find? holder := by
  cases holder with
  | registered id => simp only [find?, registry]
  | apart index => simp only [find?, apart]

theorem moved_of_frame {move : Move} (found : s.find? holder = some app)
    (uncalled : s.call? holder move = none) (kept : s.follow holder move = holder)
    (registry : (s.step move).manager.registry = s.manager.registry)
    (apart : (s.step move).apart = s.apart) : Moved s holder app move := by
  refine .still uncalled ?_
  rw [kept, find?_of_same registry apart, found]

theorem carriesOut_apply (s : System) (holder : Holder) (after : Application)
    (effects : List Effect) :
    CarriesOut s.manager effects (s.apply holder (after, effects)).manager := by
  cases holder with
  | registered id => exact ResourceManager.carriesOut_update s.manager after effects
  | apart index => exact ResourceManager.carriesOut_performAll s.manager effects

theorem moved_handle (found : s.find? holder = some app) (place : Holder)
    (event : ApplicationEvent) : Moved s holder app (.handle place event) := by
  by_cases own : place = holder
  next =>
    subst own
    refine .called (.handle event) (if_pos rfl) (find?_handle found event) ?_
    cases handled : app.handle event with
    | ok result =>
      simp only [step, handle, found, handled, Application.call]
      exact carriesOut_apply s place result.1 result.2
    | error fault =>
      simp only [step, handle, found, handled, Application.call]
      exact .refl s.manager
  next => exact .still (if_neg own) (find?_handle_of_ne own event found)

theorem moved_schedule (found : s.find? holder = some app) (place : Holder) :
    Moved s holder app (.schedule place) := by
  by_cases own : place = holder
  next =>
    subst own
    refine .called .schedule (if_pos rfl) (find?_schedule found) ?_
    simp only [step, schedule, found]
    exact carriesOut_apply s place app.schedule.1 app.schedule.2
  next => exact .still (if_neg own) (find?_schedule_of_ne own found)

theorem moved_edit (found : s.find? holder = some app) (place : Holder) (edit : Edit) :
    Moved s holder app (.edit place edit) := by
  by_cases own : place = holder
  next =>
    subst own
    refine .called (.edit edit) (if_pos rfl) ?_ ?_
    -- An edit is put in place like an event that asks for nothing.
    next =>
      have placed : (s.apply place (app.edit edit, [])).find? place = some (app.edit edit) :=
        find?_apply found (app.edit_frame edit).1
      simp only [step, follow, found]
      exact placed
    next =>
      have carries := carriesOut_apply s place (app.edit edit) []
      simp only [step, found]
      exact carries
  next =>
    refine .still (if_neg own) ?_
    simp only [step, follow]
    cases there : s.find? place with
    | none => exact found
    | some other => exact find?_put_of_ne there (other.edit_frame edit).1 own found

theorem moved_deliver {event : ApplicationEvent} {dispatcher : Dispatcher Unit} {consumer : Nat}
    (found : s.find? holder = some app)
    (delivery : s.manager.delivery? = some (.application event))
    (went : s.step .advance = { s with manager :=
      { { s.manager with dispatcher }.deliver (.application event) with
        dispatcher := ({ s.manager with dispatcher }.deliver (.application event)).dispatcher.finish
          consumer } }) : Moved s holder app .advance := by
  -- The handler runs on the state from which the event was taken.
  let taken : System := { s with manager := { s.manager with dispatcher } }
  obtain ⟨notices, delivered⟩ := deliver_application taken event
  have present : taken.find? holder = some app := (find?_of_same rfl rfl holder).trans found
  have same : (s.step .advance).find? holder =
      (taken.handle (.registered event.application) event).find? holder := by
    refine find?_of_same ?_ ?_ holder
    next =>
      have registry := congrArg ResourceManager.registry delivered
      rw [went]
      exact registry
    next =>
      rw [went]
      exact (apart_handle taken event.application event).symm
  by_cases own : .registered event.application = holder
  next =>
    subst own
    refine .called (.handle event) (by simp [call?, delivery]) ?_ ?_
    next => exact same.trans (find?_handle present event)
    next =>
      rw [went]
      exact (ResourceManager.carriesOut_deliver present).of_dispatcher
  next =>
    exact .still (by simp [call?, delivery, own])
      (same.trans (find?_handle_of_ne own event present))

theorem moved_advance (found : s.find? holder = some app) : Moved s holder app .advance := by
  cases advanced : s.manager.advance fun _ => false with
  | none =>
    have uncalled : s.call? holder .advance = none := by
      simp [call?, ResourceManager.delivery?_of_idle advanced]
    exact moved_of_frame found uncalled rfl (by simp [step, onManager, advanced]) rfl
  | some later =>
    have went : s.step .advance = { s with manager := later } := by
      simp [step, onManager, advanced]
    have way := ResourceManager.advances_of_advance advanced
    generalize delivery : s.manager.delivery? = delivered at way
    have quiet (other : ∀ event, delivered ≠ some (.application event))
        (registry : later.registry = s.manager.registry) : Moved s holder app .advance := by
      refine moved_of_frame found ?_ rfl (by rw [went, registry]) (by rw [went])
      cases delivered with
      | none => simp [call?, delivery]
      | some event =>
        cases event with
        | task event => simp [call?, delivery]
        | application event => exact absurd rfl (other event)
    cases way with
    | left consumer => exact quiet (by simp) rfl
    | passed entry dispatcher notices first running handlers ignored => exact quiet (by simp) rfl
    | delivered event dispatcher consumer first running handlers =>
      cases event with
      | task event => exact quiet (by simp) rfl
      | application event => exact moved_deliver found delivery went

theorem moved_unregister (found : s.find? holder = some app) (id : String) :
    Moved s holder app (.unregister id) := by
  refine .still rfl ?_
  simp only [step, unregister, follow]
  cases holder with
  | registered key =>
    by_cases own : key = id
    next =>
      -- Its place is behind all that were kept apart so far.
      subst own
      have here : s.manager.registry.find? key = some app := found
      simp [here, find?]
    next =>
      have other : Holder.registered key ≠ .registered id := by simpa using own
      rw [if_neg other]
      cases s.manager.registry.find? id with
      | none => exact found
      | some gone => exact (Registry.find?_remove_of_ne own).trans found
  | apart index =>
    rw [if_neg (by simp)]
    cases s.manager.registry.find? id with
    | none => exact found
    | some gone =>
      have taken : s.apart[index]? = some app := found
      exact (List.getElem?_append_left (List.getElem?_eq_some_iff.mp taken).1).trans taken

theorem moved (found : s.find? holder = some app) (move : Move) : Moved s holder app move := by
  cases move with
  | handle place event => exact moved_handle found place event
  | schedule place => exact moved_schedule found place
  | advance => exact moved_advance found
  | unregister id => exact moved_unregister found id
  | edit place edit => exact moved_edit found place edit
  | create manifest =>
    refine .still rfl ?_
    cases holder with
    | registered id => exact found
    | apart index =>
      have taken : s.apart[index]? = some app := found
      exact (List.getElem?_append_left (List.getElem?_eq_some_iff.mp taken).1).trans taken
  | register manifest =>
    refine .still rfl ?_
    cases holder with
    | registered id => exact Registry.find?_insert_of_some found _
    | apart index => exact found
  | dispatch event =>
    have extended := ResourceManager.extends_dispatch s.manager event fun _ => False
    exact moved_of_frame found rfl rfl extended.registry rfl
  | respond response =>
    have extended := ResourceManager.extends_respond s.manager response fun _ => False
    exact moved_of_frame found rfl rfl extended.registry rfl
  | work index =>
    obtain ⟨raised, extended⟩ := ResourceManager.extends_work s.manager index
    exact moved_of_frame found rfl rfl extended.registry rfl
  | install => exact moved_of_frame found rfl rfl rfl rfl
  | start =>
    obtain ⟨dispatcher, notices, same, -⟩ := ResourceManager.startDispatcher_frame s.manager
    refine moved_of_frame found rfl rfl ?_ rfl
    simp only [step, onManager, same]
  | stop => exact moved_of_frame found rfl rfl rfl rfl
  | replaceScheduler scheduler => exact moved_of_frame found rfl rfl rfl rfl
  | replaceClient client => exact moved_of_frame found rfl rfl rfl rfl

theorem life_is_calls (found : s.find? holder = some app) (moves : List Move) :
    ∃ calls, (s.run moves).find? (s.followAll holder moves) = some (app.after calls) ∧
      (s.turns holder moves).map (·.toTurn) = app.turns calls ∧
      ∀ state, state ∈ s.visited holder moves ↔ state ∈ app.visited calls := by
  induction moves generalizing s holder app with
  | nil => exact ⟨[], found, rfl, by simp [visited, Application.visited, found]⟩
  | cons move rest ih =>
    cases moved found move with
    | still uncalled found' =>
      obtain ⟨calls, last, turns, states⟩ := ih found'
      refine ⟨calls, last, ?_, fun state => ?_⟩
      next => simpa [System.turns, turn?, found, uncalled] using turns
      next =>
        have here := Application.mem_visited_self app calls
        simp only [visited, found, Option.map_some, Option.toList_some, List.singleton_append,
          List.mem_cons, states]
        exact or_iff_right_of_imp fun same => same ▸ here
    | called call calls found' carries =>
      obtain ⟨more, last, turns, states⟩ := ih found'
      refine ⟨call :: more, last, ?_, fun state => ?_⟩
      next => simp [System.turns, turn?, found, calls, turns, Application.turns]
      next => simp [visited, Application.visited, found, states]

theorem carriesOut_of_turn (found : s.find? holder = some app) {moves : List Move} {turn : Turn}
    (member : turn ∈ s.turns holder moves) : CarriesOut turn.before turn.asked turn.after := by
  induction moves generalizing s holder app with
  | nil => cases member
  | cons move rest ih =>
    cases moved found move with
    | still uncalled found' =>
      simp only [turns, turn?, found, uncalled, Option.toList_none, List.nil_append] at member
      exact ih found' member
    | called call calls found' carries =>
      simp only [turns, turn?, found, calls, Option.toList_some, List.singleton_append,
        List.mem_cons] at member
      cases member with
      | inl same =>
        subst same
        exact carries
      | inr later => exact ih found' later

-- Nothing is submitted or recorded, and no work is started.
structure Uneventful (s : System) (move : Move) : Prop where
  recorder : (s.step move).manager.recorder = s.manager.recorder
  scheduler : (∀ scheduler, move ≠ .replaceScheduler scheduler) →
    (s.step move).manager.scheduler = s.manager.scheduler
  jobs : (∀ index, move ≠ .work index) → (s.step move).manager.jobs = s.manager.jobs

theorem Uneventful.of_step {move : Move} (same : s.step move = s) : Uneventful s move := by
  constructor <;> simp [same]

theorem Uneventful.of_carriesOut {move : Move}
    (carries : CarriesOut s.manager [] (s.step move).manager) : Uneventful s move where
  recorder := carries.recorder
  scheduler _ := carries.scheduler.trans s.manager.scheduler.keep_nil
  jobs _ := carries.jobs.trans (List.append_nil _)

theorem uneventful_advance (uncalled : ∀ holder, s.turn? holder .advance = none) :
    Uneventful s .advance := by
  cases advanced : s.manager.advance fun _ => false with
  | none => exact .of_step (by simp [step, onManager, advanced])
  | some later =>
    have went : s.step .advance = { s with manager := later } := by
      simp [step, onManager, advanced]
    have way := ResourceManager.advances_of_advance advanced
    generalize delivery : s.manager.delivery? = delivered at way
    cases way with
    | left consumer => constructor <;> simp [went]
    | passed => constructor <;> simp [went]
    | delivered event dispatcher consumer =>
      cases event with
      | task event => constructor <;> simp [went, ResourceManager.deliver]
      | application event =>
        -- Nobody is there to handle the event, or it would be a turn.
        have unknown : s.manager.registry.find? event.application = none := by
          cases found : s.manager.registry.find? event.application with
          | none => rfl
          | some app =>
            have turn := uncalled (.registered event.application)
            simp [turn?, find?, found, call?, delivery] at turn
        constructor <;>
          simp [went, ResourceManager.deliver, ResourceManager.handle, Registry.lookup, unknown,
            ResourceManager.note]

theorem uneventful_of_uncalled {move : Move} (uncalled : ∀ holder, s.turn? holder move = none) :
    Uneventful s move := by
  have absent (holder : Holder) {call : Application.Call}
      (calls : s.call? holder move = some call) : s.find? holder = none := by
    have turn := uncalled holder
    cases found : s.find? holder with
    | none => rfl
    | some app => simp [turn?, found, calls] at turn
  cases move with
  | edit holder edit => exact .of_step (by simp [step, absent holder (if_pos rfl)])
  | handle holder event =>
    exact .of_step (by simp [step, handle, absent holder (if_pos rfl)])
  | schedule holder =>
    exact .of_step (by simp [step, schedule, absent holder (if_pos rfl)])
  | advance => exact uneventful_advance uncalled
  | dispatch event => exact .of_carriesOut (ResourceManager.carriesOut_dispatch s.manager event)
  | respond response => exact .of_carriesOut (ResourceManager.carriesOut_respond s.manager response)
  | unregister id =>
    cases found : s.manager.registry.find? id <;> constructor <;> simp [step, unregister, found]
  | work index =>
    rcases ResourceManager.work_cases s.manager index with ⟨same, -⟩ | ⟨job, jobs, -, own, same, -⟩
    next => exact .of_step (by simp [step, onManager, same])
    next =>
      obtain ⟨scheduler, recorder, -⟩ := s.manager.stepJob_frame own
      refine ⟨?_, fun _ => ?_, fun other => absurd rfl (other index)⟩
      next =>
        simp only [step, onManager, same]
        exact recorder
      next =>
        simp only [step, onManager, same]
        exact scheduler
  | start =>
    obtain ⟨dispatcher, notices, same, -⟩ := ResourceManager.startDispatcher_frame s.manager
    constructor <;> simp [step, onManager, same]
  | replaceScheduler scheduler => exact ⟨rfl, fun other => absurd rfl (other scheduler), fun _ => rfl⟩
  | _ => exact ⟨rfl, fun _ => rfl, fun _ => rfl⟩

theorem asked_eq {calls : List Application.Call} {moves : List Move}
    (turns : (s.turns holder moves).map (·.toTurn) = app.turns calls) :
    s.asked holder moves = (app.turns calls).flatMap (·.asked) := by
  rw [asked, ← turns, List.flatMap_map]

theorem followAll_append (s : System) (holder : Holder) (first second : List Move) :
    s.followAll holder (first ++ second) =
      (s.run first).followAll (s.followAll holder first) second := by
  induction first generalizing s holder with
  | nil => rfl
  | cons move rest ih => exact ih (s.step move) (s.follow holder move)

/-- An application that starts as new never comes back to a state that it has left. It is sent to
the scheduler once, when it stops being new, and has its placeholders created once if it ever
reserves. The component does what applications ask for in their turns, and no more. -/
theorem never_returns (found : s.find? holder = some app) (fresh : app.state = .new)
    (moves : List Move) :
    (∀ before between rest, moves = before ++ between ++ rest →
      s.stateAfter holder (before ++ between) ≠ s.stateAfter holder before →
      s.stateAfter holder moves ≠ s.stateAfter holder before) ∧
    (∀ turn ∈ s.turns holder moves, CarriesOut turn.before turn.asked turn.after) ∧
    (∀ now move, (∀ place, turn? now place move = none) → Uneventful now move) ∧
    (∃ state, s.stateAfter holder moves = some state ∧
      submitted (s.asked holder moves) = if state = .new then [] else [app.id]) ∧
    reserved (s.asked holder moves) =
      if .reserving ∈ s.visited holder moves then [app.id] else [] := by
  refine ⟨?_, fun turn => carriesOut_of_turn found, fun _ _ => uneventful_of_uncalled, ?_, ?_⟩
  next =>
    rintro before between rest rfl left again
    obtain ⟨first, here, -⟩ := life_is_calls found before
    obtain ⟨second, there, -⟩ := life_is_calls here between
    rw [← followAll_append, ← run_append] at there
    obtain ⟨third, last, -⟩ := life_is_calls there rest
    rw [← followAll_append, ← run_append] at last
    simp only [stateAfter, here, there, last, Option.map_some, ne_eq, Option.some.injEq]
      at left again
    have met := Application.mem_visited_after ((app.after first).after second) third
    rw [again] at met
    exact Application.not_mem_visited_of_left second left met
  next =>
    obtain ⟨calls, last, turns, -⟩ := life_is_calls found moves
    refine ⟨(app.after calls).state, by rw [stateAfter, last, Option.map_some], ?_⟩
    rw [asked_eq turns, Application.submitted_turns]
    simp [fresh]
  next =>
    obtain ⟨calls, -, turns, states⟩ := life_is_calls found moves
    rw [asked_eq turns, Application.reserved_turns]
    simp [fresh, states]

def toRunning : List Move :=
  [.install, .start, .schedule (.registered "app-1"), .schedule (.registered "app-1"),
   .handle (.registered "app-1") { application := "app-1", kind := .recover }, .advance,
   .schedule (.registered "app-1"), .advance,
   .handle (.registered "app-1") { application := "app-1", kind := .tryReserve }, .work 0, .work 0,
   .edit (.registered "app-1") (.setGroups []), .unregister "app-1",
   .handle (.apart 0) { application := "app-1", kind := .updateReservation },
   .handle (.apart 0) (.run "app-1"), .handle (.apart 0) (.submit "app-1")]

theorem never_returns_toRunning :
    roomy.find? (.registered "app-1") = some oneWorker.application ∧
      oneWorker.application.state = .new ∧
      roomy.stateAfter (.registered "app-1") toRunning = some .running ∧
      submitted (roomy.asked (.registered "app-1") toRunning) = ["app-1"] ∧
      (roomy.run toRunning).manager.scheduler.updates.length = 1 ∧
      reserved (roomy.asked (.registered "app-1") toRunning) = ["app-1"] := by
  have found : roomy.find? (.registered "app-1") = some oneWorker.application := rfl
  obtain ⟨-, -, -, ⟨state, last, submissions⟩, reservations⟩ :=
    never_returns found rfl toRunning
  have runs : roomy.stateAfter (.registered "app-1") toRunning = some .running := rfl
  obtain rfl := Option.some.inj (last.symm.trans runs)
  have met : .reserving ∈ roomy.visited (.registered "app-1") toRunning := by decide
  rw [if_pos met] at reservations
  exact ⟨found, rfl, runs, submissions, rfl, reservations⟩

/-- Whoever makes an application fail, and however often: it fails once and says so once, and the
component records just what it says. -/
theorem failure_announced_once (found : s.find? holder = some app) (moves : List Move) :
    (∀ turn ∈ s.turns holder moves, CarriesOut turn.before turn.asked turn.after) ∧
      (∀ now move, (∀ place, turn? now place move = none) → Uneventful now move) ∧
      FailsOnce app.id ((s.turns holder moves).map (·.toTurn)) := by
  obtain ⟨calls, -, turns, -⟩ := life_is_calls found moves
  refine ⟨fun turn => carriesOut_of_turn found, fun _ _ => uneventful_of_uncalled, ?_⟩
  rw [turns]
  exact app.failsOnce calls

def unreachable : System :=
  { manager :=
      { config := { workerThreads := 1 }
        registry := Registry.empty.add { id := "app-1", queue := "root.q", user := "u" }
        dispatcher := {}
        scheduler := { failure := some "down", receiver := some () }
        recorder := .memory {} } }

def taskIn (state : TaskState) (id : String) : Task :=
  { id, pod := { space := "default", name := id, uid := id }, state }

def failures : List Move :=
  [.install, .start, .edit (.registered "app-1") (.addTask (taskIn .new "t-1")),
   .edit (.registered "app-1") (.addTask (taskIn .bound "t-2")),
   .edit (.registered "app-1") (.addTask (taskIn .pending "t-3")),
   .schedule (.registered "app-1"),
   .respond { rejected := [{ application := "app-1", reason := "no queue" }] },
   .handle (.registered "app-1") (.fail "app-1" "quota"), .advance, .advance,
   .unregister "app-1", .handle (.apart 0) (.fail "app-1" "late")]

theorem failure_announced_once_threeCauses :
    let turns := unreachable.turns (.registered "app-1") failures
    unreachable.find? (.registered "app-1") =
        some { id := "app-1", queue := "root.q", user := "u" } ∧
      (turns.flatMap (·.handled)) = [.submit "app-1", .fail "app-1" "quota"] ∧
      (unreachable.run failures).manager.jobs = [.cleanUp "app-1" false] ∧
      (unreachable.run failures).manager.recorder.events.map (·.pod.name) = ["t-1", "t-3"] ∧
      FailsOnce "app-1" (turns.map (·.toTurn)) := by
  have found : unreachable.find? (.registered "app-1") =
      some { id := "app-1", queue := "root.q", user := "u" } := rfl
  exact ⟨found, by decide, by decide, by decide, (failure_announced_once found failures).2.2⟩

end System

end GangScheduling
