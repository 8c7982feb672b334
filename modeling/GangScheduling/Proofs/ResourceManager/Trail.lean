import GangScheduling.Proofs.Registry
import GangScheduling.Proofs.ResourceManager.CarryOut

set_option autoImplicit false

namespace GangScheduling

structure Reply where
  responses : List UpdateResponse := []
  fault : Option Error := none

/-- A scheduler that answers a request by the application it is about, and only about that
application. -/
structure Reception where
  reply : AddApplication → Reply
  own : ∀ description, ∀ response ∈ (reply description).responses,
    (∀ id ∈ response.accepted, id = description.application) ∧
      ∀ rejection ∈ response.rejected, rejection.application = description.application

def UpdateResponse.announced (response : UpdateResponse) (knows : String → Bool) : List Event :=
  ((response.accepted.filter knows).map fun application =>
      .application { application, kind := .accept }) ++
    (response.rejected.filter fun rejection => knows rejection.application).map fun rejection =>
      .application { application := rejection.application, kind := .reject }

def Reception.raised (reception : Reception) (knows : String → Bool)
    (description : AddApplication) : List Event :=
  ((reception.reply description).responses.flatMap fun response => response.announced knows) ++
    (reception.reply description).fault.toList.map fun fault =>
      .application (.fail description.application fault.message)

namespace Effect

def dispatched (reception : Reception) (knows : String → Bool) : Effect → List Event
  | .submit description => reception.raised knows description
  | .dispatch event => [event]
  | _ => []

end Effect

namespace Registry

def knows (registry : Registry) (id : String) : Bool :=
  (registry.find? id).isSome

def route (registry : Registry) (event : ApplicationEvent) :
    Except Error (Registry × List Effect) :=
  match registry.lookup event.application with
  | .error fault => .error fault
  | .ok app =>
    match app.handle event with
    | .error fault => .error fault
    | .ok (after, effects) => .ok (registry.modify after.id fun _ => after, effects)

end Registry

structure Trail where
  registry : Registry
  dispatched : List Event := []
  recorded : List PodEvent := []

namespace Trail

def handle (reception : Reception) (trail : Trail) (event : ApplicationEvent) : Trail :=
  match trail.registry.route event with
  | .error _ => trail
  | .ok (registry, effects) =>
    { registry
      dispatched := trail.dispatched ++
        effects.flatMap (·.dispatched reception trail.registry.knows)
      recorded := trail.recorded ++ effects.flatMap (·.recorded) }

def handleAll (reception : Reception) (trail : Trail) (events : List ApplicationEvent) : Trail :=
  events.foldl (handle reception) trail

end Trail

namespace Trail

variable {reception : Reception} {trail : Trail} {event : ApplicationEvent}
  {app after : Application} {effects : List Effect}

theorem handle_of_handled (found : trail.registry.find? event.application = some app)
    (handled : app.handle event = .ok (after, effects)) :
    trail.handle reception event =
      { registry := trail.registry.modify after.id fun _ => after
        dispatched := trail.dispatched ++
          effects.flatMap (·.dispatched reception trail.registry.knows)
        recorded := trail.recorded ++ effects.flatMap (·.recorded) } := by
  simp [handle, Registry.route, Registry.lookup, found, handled]

theorem handle_of_refused (found : trail.registry.find? event.application = some app)
    {fault : Error} (refused : app.handle event = .error fault) :
    trail.handle reception event = trail := by
  simp [handle, Registry.route, Registry.lookup, found, refused]

theorem handle_of_unknown (unknown : trail.registry.find? event.application = none) :
    trail.handle reception event = trail := by
  simp [handle, Registry.route, Registry.lookup, unknown]

theorem handle_cases (reception : Reception) (trail : Trail) (event : ApplicationEvent) :
    trail.handle reception event = trail ∨
      ∃ app after effects, trail.registry.find? event.application = some app ∧
        app.handle event = .ok (after, effects) ∧ app.id = event.application ∧
        after.id = event.application ∧
        trail.handle reception event =
          { registry := trail.registry.modify after.id fun _ => after
            dispatched := trail.dispatched ++
              effects.flatMap (·.dispatched reception trail.registry.knows)
            recorded := trail.recorded ++ effects.flatMap (·.recorded) } := by
  cases found : trail.registry.find? event.application with
  | none => exact .inl (handle_of_unknown found)
  | some app =>
    cases handled : app.handle event with
    | error fault => exact .inl (handle_of_refused found handled)
    | ok result =>
      obtain ⟨after, effects⟩ := result
      have own := Registry.id_of_find? found
      exact .inr ⟨app, after, effects, rfl, handled, own,
        (Application.handle_ok handled).2.1.trans own, handle_of_handled found handled⟩

theorem knows_modify (registry : Registry) (found : registry.find? after.id = some app) :
    (registry.modify after.id fun _ => after).knows = registry.knows := by
  funext key
  rw [Registry.knows, Registry.find?_modify, Registry.knows]
  by_cases same : key = after.id
  next => simp [same, found]
  next => simp [same]

theorem knows_handle (reception : Reception) (trail : Trail) (event : ApplicationEvent) :
    (trail.handle reception event).registry.knows = trail.registry.knows := by
  rcases handle_cases reception trail event with same | ⟨app, after, effects, found, -, -, key, same⟩
  next => rw [same]
  next =>
    rw [same]
    exact knows_modify _ (key ▸ found)

theorem knows_handleAll (reception : Reception) (trail : Trail) (events : List ApplicationEvent) :
    (trail.handleAll reception events).registry.knows = trail.registry.knows := by
  induction events generalizing trail with
  | nil => rfl
  | cons event rest ih => exact (ih (trail.handle reception event)).trans (knows_handle _ _ _)

end Trail

theorem Dispatcher.dispatchAll_append {H : Type} (d : Dispatcher H) (events more : List Event) :
    (d.dispatchAll (events ++ more)).1 = ((d.dispatchAll events).1.dispatchAll more).1 := by
  induction events generalizing d with
  | nil => rfl
  | cons event rest ih => exact ih (d.dispatch event).1

namespace ResourceManager

def reception (m : ResourceManager) : Reception where
  reply description :=
    match m.scheduler.available with
    | .error fault => { fault := some fault }
    | .ok () => { responses := (m.scheduler.answer (m.request description)).toList.map (·.2) }
  own := by
    intro description response given
    split at given
    next => cases given
    next =>
      simp only [Scheduler.answer] at given
      split at given
      next =>
        cases receiver : m.scheduler.receiver with
        | none => simp [receiver] at given
        | some told =>
          simp only [receiver, Option.map_some, Option.toList_some, List.map_cons, List.map_nil,
            List.mem_singleton] at given
          subst given
          simp [request]
      next => cases given

def handleAll (m : ResourceManager) (events : List ApplicationEvent) : ResourceManager :=
  events.foldl (fun m event => (m.handle event).toOption.getD m) m

/-- Between two states no more was called of the dispatcher and of the recorder than this. -/
structure Calls (m : ResourceManager) (dispatched : List Event) (recorded : List PodEvent)
    (next : ResourceManager) : Prop where
  reception : next.reception = m.reception
  dispatcher : next.dispatcher = (m.dispatcher.dispatchAll dispatched).1
  recorder : next.recorder = (m.recorder.recordAll recorded).1

variable {m middle next : ResourceManager} {dispatched later : List Event}
  {recorded further : List PodEvent}

theorem Calls.refl (m : ResourceManager) : Calls m [] [] m :=
  ⟨rfl, rfl, rfl⟩

theorem Calls.trans (first : Calls m dispatched recorded middle)
    (second : Calls middle later further next) :
    Calls m (dispatched ++ later) (recorded ++ further) next where
  reception := second.reception.trans first.reception
  dispatcher := by rw [second.dispatcher, first.dispatcher, Dispatcher.dispatchAll_append]
  recorder := by rw [second.recorder, first.recorder, Recorder.recordAll_append]

theorem calls_announceAll {A : Type} (m : ResourceManager) (kind : EventKind) (id : A → String)
    (items : List A) :
    Calls m ((items.filter fun item => m.registry.knows (id item)).map fun item =>
        .application { application := id item, kind }) []
      (items.foldl (fun m item => m.announce kind (id item)) m) := by
  induction items generalizing m with
  | nil => exact .refl m
  | cons item rest ih =>
    have later := ih (m.announce kind (id item))
    rw [(extends_announce m kind (id item) fun _ => False).registry] at later
    cases known : m.registry.find? (id item) with
    | none =>
      have same : Calls m [] [] (m.announce kind (id item)) := by
        simp only [announce, known]
        exact ⟨rfl, rfl, rfl⟩
      rw [List.filter_cons_of_neg (by simp [Registry.knows, known])]
      exact same.trans later
    | some app =>
      have sent : Calls m [.application { application := id item, kind }] []
          (m.announce kind (id item)) := by
        simp only [announce, known]
        exact ⟨rfl, rfl, rfl⟩
      rw [List.filter_cons_of_pos (by simp [Registry.knows, known])]
      exact sent.trans later

theorem calls_receive (m : ResourceManager) (response : UpdateResponse) :
    Calls m (response.announced m.registry.knows) [] (m.receive response) := by
  have accepted := calls_announceAll m .accept (fun id => id) response.accepted
  have rejected := calls_announceAll (response.accepted.foldl (fun m id => m.announce .accept id) m)
    .reject (·.application) response.rejected
  rw [(extends_accepted m response fun _ => False).registry] at rejected
  exact accepted.trans rejected

theorem calls_submit (m : ResourceManager) (description : AddApplication) :
    Calls m (m.reception.raised m.registry.knows description) [] (m.submit description) := by
  unfold submit Reception.raised
  simp only [Scheduler.update, reception]
  cases available : m.scheduler.available with
  | error fault => exact ⟨rfl, rfl, rfl⟩
  | ok =>
    simp only
    cases answer : m.scheduler.answer (m.request description) with
    | none => exact ⟨rfl, rfl, rfl⟩
    | some told =>
      -- The scheduler keeps the request before it answers.
      have kept : Calls m [] [] { m with scheduler :=
          { m.scheduler with updates := m.scheduler.updates ++ [m.request description] } } :=
        ⟨rfl, rfl, rfl⟩
      simpa using kept.trans (calls_receive _ told.2)

theorem calls_perform (m : ResourceManager) (effect : Effect) :
    Calls m (effect.dispatched m.reception m.registry.knows) effect.recorded (m.perform effect) := by
  cases effect with
  | submit description => exact calls_submit m description
  | _ => exact ⟨rfl, rfl, rfl⟩

theorem calls_performAll (m : ResourceManager) (effects : List Effect) :
    Calls m (effects.flatMap (·.dispatched m.reception m.registry.knows))
      (effects.flatMap (·.recorded)) (m.performAll effects) := by
  induction effects generalizing m with
  | nil => exact .refl m
  | cons effect rest ih =>
    have first := calls_perform m effect
    have later := ih (m.perform effect)
    rw [first.reception, (extends_perform m effect).registry] at later
    exact first.trans later

structure Along (m : ResourceManager) (trail : Trail) (next : ResourceManager) : Prop where
  registry : next.registry = trail.registry
  calls : Calls m trail.dispatched trail.recorded next

theorem along_handle {trail : Trail} (along : Along m trail next) (event : ApplicationEvent) :
    Along m (trail.handle m.reception event) ((next.handle event).toOption.getD next) := by
  unfold handle Registry.lookup
  rw [along.registry]
  cases found : trail.registry.find? event.application with
  | none =>
    rw [Trail.handle_of_unknown found]
    exact along
  | some app =>
    cases handled : app.handle event with
    | error fault =>
      rw [Trail.handle_of_refused found handled]
      simp only [handled]
      exact along
    | ok result =>
      obtain ⟨after, effects⟩ := result
      have key : after.id = event.application :=
        (Application.handle_ok handled).2.1.trans (Registry.id_of_find? found)
      have performed := calls_performAll (next.update after) effects
      have same : (next.update after).registry = trail.registry.modify after.id fun _ => after := by
        rw [update, along.registry]
      have kept : (next.update after).reception = m.reception := along.calls.reception
      rw [same, Trail.knows_modify _ (key ▸ found), kept] at performed
      have before : Calls m trail.dispatched trail.recorded (next.update after) :=
        ⟨along.calls.reception, along.calls.dispatcher, along.calls.recorder⟩
      rw [Trail.handle_of_handled found handled]
      simp only [handled]
      exact ⟨(extends_performAll _ effects).registry.trans same, before.trans performed⟩

theorem along_handleAll {trail : Trail} (along : Along m trail next)
    (events : List ApplicationEvent) :
    Along m (trail.handleAll m.reception events) (next.handleAll events) := by
  induction events generalizing trail next with
  | nil => exact along
  | cons event rest ih => exact ih (along_handle along event)

end ResourceManager

end GangScheduling
