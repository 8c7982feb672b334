import GangScheduling.Proofs.ResourceManager.Trail

set_option autoImplicit false

namespace GangScheduling

namespace Registry

def podsOf (registry : Registry) (id : String) : List Pod :=
  ((registry.find? id).map fun app => app.tasks.toList.map (·.pod)).getD []

def Disjoint (registry : Registry) : Prop :=
  ∀ app ∈ registry.toList, ∀ other ∈ registry.toList, app.id ≠ other.id →
    ∀ task ∈ app.tasks.toList, ∀ further ∈ other.tasks.toList, task.pod ≠ further.pod

instance (registry : Registry) : Decidable registry.Disjoint :=
  inferInstanceAs (Decidable (∀ app ∈ registry.toList, ∀ other ∈ registry.toList,
    app.id ≠ other.id →
      ∀ task ∈ app.tasks.toList, ∀ further ∈ other.tasks.toList, task.pod ≠ further.pod))

end Registry

section Handled

variable {app after : Application} {event : ApplicationEvent} {effects : List Effect}

theorem Application.pods_handle (handled : app.handle event = .ok (after, effects)) :
    after.tasks.toList.map (·.pod) = app.tasks.toList.map (·.pod) := by
  have kept := kept_handle handled
  generalize app.tasks.toList = before, after.tasks.toList = later at kept ⊢
  induction kept with
  | nil => rfl
  | cons head tail ih =>
    obtain ⟨termination, deletions, rfl⟩ := head
    simp only [List.map_cons, ih]

theorem Application.pod_of_record (handled : app.handle event = .ok (after, effects))
    {recorded : PodEvent} (member : .record recorded ∈ effects) :
    recorded.pod ∈ app.tasks.toList.map (·.pod) := by
  obtain ⟨next, -, -, rfl⟩ := eq_of_handle handled
  cases List.mem_append.mp member with
  | inl entered =>
    split at entered
    next => cases entered
    next => cases next <;> simp [enter] at entered
  | inr said =>
    simp only [respond, fail_of_record said, onFail, List.mem_cons, reduceCtorEq, false_or] at said
    split at said
    next =>
      obtain ⟨failure, listed, same⟩ := List.mem_map.mp said
      obtain ⟨task, present, rfl⟩ := List.mem_map.mp listed
      cases same
      exact List.mem_map.mpr ⟨task, (List.mem_filter.mp present).1, rfl⟩
    next => simp at said

theorem Application.pod_of_recorded (handled : app.handle event = .ok (after, effects))
    {recorded : PodEvent} (member : recorded ∈ effects.flatMap (·.recorded)) :
    recorded.pod ∈ app.tasks.toList.map (·.pod) := by
  obtain ⟨effect, present, called⟩ := List.mem_flatMap.mp member
  cases effect with
  | record event =>
    cases List.mem_singleton.mp called
    exact pod_of_record handled present
  | _ => cases called

theorem Reception.id_of_raised (reception : Reception) {knows : String → Bool}
    {description : AddApplication} {sent : Event}
    (member : sent ∈ reception.raised knows description) :
    sent.applicationId = description.application := by
  cases List.mem_append.mp member with
  | inl answered =>
    obtain ⟨response, given, announced⟩ := List.mem_flatMap.mp answered
    obtain ⟨accepted, rejected⟩ := reception.own description response given
    cases List.mem_append.mp announced with
    | inl listed =>
      obtain ⟨id, known, rfl⟩ := List.mem_map.mp listed
      exact accepted id (List.mem_filter.mp known).1
    | inr listed =>
      obtain ⟨rejection, known, rfl⟩ := List.mem_map.mp listed
      exact rejected rejection (List.mem_filter.mp known).1
  | inr refused =>
    obtain ⟨fault, -, rfl⟩ := List.mem_map.mp refused
    rfl

theorem Application.id_of_dispatched (reception : Reception) {knows : String → Bool}
    (handled : app.handle event = .ok (after, effects)) {sent : Event}
    (member : sent ∈ effects.flatMap (·.dispatched reception knows)) :
    sent.applicationId = app.id := by
  obtain ⟨effect, present, raised⟩ := List.mem_flatMap.mp member
  cases (handle_ok handled).2.2 effect present with
  | submission ask fresh => exact reception.id_of_raised raised
  | failure reason rejected =>
    cases List.mem_singleton.mp raised
    rfl
  | run changed complete =>
    cases List.mem_singleton.mp raised
    rfl
  | _ => cases raised

end Handled

namespace Trail

variable {reception : Reception} {trail whole own : Trail} {event : ApplicationEvent}
  {id : String} {pods : List Pod}

/-- What one application can tell two trails apart by, when its tasks are on these pods. -/
structure Agrees (id : String) (pods : List Pod) (whole own : Trail) : Prop where
  application : whole.registry.find? id = own.registry.find? id
  knows : whole.registry.knows = own.registry.knows
  dispatched : whole.dispatched.filter (·.applicationId = id) =
    own.dispatched.filter (·.applicationId = id)
  recorded : whole.recorded.filter (·.pod ∈ pods) = own.recorded.filter (·.pod ∈ pods)

def Apart (id : String) (pods : List Pod) (registry : Registry) : Prop :=
  ∀ app ∈ registry.toList, app.id ≠ id → ∀ pod ∈ app.tasks.toList.map (·.pod), pod ∉ pods

theorem agrees_own (agrees : Agrees id pods whole own) (addressed : event.application = id) :
    Agrees id pods (whole.handle reception event) (own.handle reception event) := by
  have same : whole.registry.find? event.application = own.registry.find? event.application :=
    addressed ▸ agrees.application
  cases found : own.registry.find? event.application with
  | none => rwa [handle_of_unknown (same.trans found), handle_of_unknown found]
  | some app =>
    cases handled : app.handle event with
    | error fault =>
      rwa [handle_of_refused (same.trans found) handled, handle_of_refused found handled]
    | ok result =>
      obtain ⟨after, effects⟩ := result
      have key : after.id = event.application :=
        (Application.handle_ok handled).2.1.trans (Registry.id_of_find? found)
      have here : own.registry.find? after.id = some app := key ▸ found
      have there : whole.registry.find? after.id = some app := key ▸ same.trans found
      rw [handle_of_handled (same.trans found) handled, handle_of_handled found handled]
      constructor
      next => simp only [Registry.find?_modify, here, there, agrees.application]
      next => simp only [knows_modify _ here, knows_modify _ there, agrees.knows]
      next => simp only [List.filter_append, agrees.dispatched, agrees.knows]
      next => simp only [List.filter_append, agrees.recorded]

theorem agrees_other (agrees : Agrees id pods whole own) (apart : Apart id pods whole.registry)
    (other : event.application ≠ id) : Agrees id pods (whole.handle reception event) own := by
  rcases handle_cases reception whole event with
    same | ⟨app, after, effects, found, handled, own, key, same⟩
  next => rwa [same]
  next =>
    have different : id ≠ after.id := fun equal => other (key.symm.trans equal.symm)
    have unsent : (effects.flatMap
        (·.dispatched reception whole.registry.knows)).filter (·.applicationId = id) = [] := by
      apply List.filter_eq_nil_iff.mpr
      intro sent member
      rw [Application.id_of_dispatched reception handled member, own]
      simpa using other
    have unrecorded : (effects.flatMap (·.recorded)).filter (·.pod ∈ pods) = [] := by
      apply List.filter_eq_nil_iff.mpr
      intro recorded member
      have listed := Application.pod_of_recorded handled member
      simpa using apart app (Registry.mem_of_find? found) (own ▸ other) _ listed
    rw [same]
    constructor
    next => rw [Registry.find?_modify, if_neg different, agrees.application]
    next => rw [knows_modify _ (key ▸ found), agrees.knows]
    next => rw [List.filter_append, unsent, List.append_nil, agrees.dispatched]
    next => rw [List.filter_append, unrecorded, List.append_nil, agrees.recorded]

theorem apart_handle (apart : Apart id pods trail.registry) :
    Apart id pods (trail.handle reception event).registry := by
  rcases handle_cases reception trail event with
    same | ⟨app, after, effects, found, handled, own, key, same⟩
  next => rwa [same]
  next =>
    rw [same]
    intro other member different
    cases Registry.mem_modify member with
    | inl before => exact apart other before different
    | inr changed =>
      obtain ⟨before, -, -, rfl⟩ := changed
      -- The tasks may have been released, but they are on the pods that they were on.
      rw [Application.pods_handle handled]
      exact apart app (Registry.mem_of_find? found) (own ▸ key ▸ different)

theorem agrees_handleAll (reception : Reception) (agrees : Agrees id pods whole own)
    (apart : Apart id pods whole.registry) (events : List ApplicationEvent) :
    Agrees id pods (whole.handleAll reception events)
      (own.handleAll reception (events.filter (·.application = id))) := by
  induction events generalizing whole own with
  | nil => exact agrees
  | cons event rest ih =>
    by_cases addressed : event.application = id
    next =>
      rw [List.filter_cons_of_pos (by simpa using addressed)]
      exact ih (agrees_own agrees addressed) (apart_handle apart)
    next =>
      rw [List.filter_cons_of_neg (by simpa using addressed)]
      exact ih (agrees_other agrees apart addressed) (apart_handle apart)

theorem apart_of_disjoint {registry : Registry} (disjoint : registry.Disjoint) (id : String) :
    Apart id (registry.podsOf id) registry := by
  intro app member different pod listed shared
  unfold Registry.podsOf at shared
  cases found : registry.find? id with
  | none => simp [found] at shared
  | some other =>
    rw [found, Option.map_some, Option.getD_some] at shared
    obtain ⟨task, present, rfl⟩ := List.mem_map.mp listed
    obtain ⟨further, there, same⟩ := List.mem_map.mp shared
    have apart : app.id ≠ other.id := fun equal =>
      different (equal.trans (Registry.id_of_find? found))
    exact disjoint app member other (Registry.mem_of_find? found) apart task present further there
      same.symm

end Trail

namespace ResourceManager

/-- What becomes of an application, what is recorded for its pods and what is dispatched for it are
the same with and without the events for all others, in whatever order they come. The trail that
tells so is the one that the component goes along. -/
theorem applications_isolated (reception : Reception) (registry : Registry)
    (disjoint : registry.Disjoint) (id : String) (events : List ApplicationEvent) :
    ((Trail.handleAll reception { registry } events).registry.find? id =
        (Trail.handleAll reception { registry }
          (events.filter (·.application = id))).registry.find? id ∧
      (Trail.handleAll reception { registry } events).dispatched.filter (·.applicationId = id) =
        (Trail.handleAll reception { registry }
          (events.filter (·.application = id))).dispatched.filter (·.applicationId = id) ∧
      (Trail.handleAll reception { registry } events).recorded.filter
          (·.pod ∈ registry.podsOf id) =
        (Trail.handleAll reception { registry }
          (events.filter (·.application = id))).recorded.filter (·.pod ∈ registry.podsOf id)) ∧
    (∀ event, registry.find? event.application = none →
      (Trail.handleAll reception { registry } events).registry.route event =
          .error (.applicationNotFound event.application) ∧
        (Trail.handleAll reception { registry } events).handle reception event =
          Trail.handleAll reception { registry } events) ∧
    ∀ m : ResourceManager, m.registry = registry → m.reception = reception → ∀ sent,
      (m.handleAll sent).registry = (Trail.handleAll reception { registry } sent).registry ∧
        (m.handleAll sent).dispatcher = (m.dispatcher.dispatchAll
          (Trail.handleAll reception { registry } sent).dispatched).1 ∧
        (m.handleAll sent).recorder = (m.recorder.recordAll
          (Trail.handleAll reception { registry } sent).recorded).1 ∧
        ∀ event, registry.find? event.application = none →
          (m.handleAll sent).handle event = .error (.applicationNotFound event.application) := by
  have agrees : Trail.Agrees id (registry.podsOf id) { registry } { registry } :=
    ⟨rfl, rfl, rfl, rfl⟩
  have isolated := Trail.agrees_handleAll reception agrees
    (Trail.apart_of_disjoint disjoint id) events
  have unknown (event : ApplicationEvent) (sent : List ApplicationEvent)
      (absent : registry.find? event.application = none) :
      (Trail.handleAll reception { registry } sent).registry.find? event.application = none := by
    have same := Trail.knows_handleAll reception { registry } sent
    have here := congrFun same event.application
    simpa [Registry.knows, absent] using here
  refine ⟨⟨isolated.application, isolated.dispatched, isolated.recorded⟩, ?_, ?_⟩
  next =>
    intro event absent
    have still := unknown event events absent
    refine ⟨?_, Trail.handle_of_unknown still⟩
    simp [Registry.route, Registry.lookup, still]
  next =>
    rintro m rfl rfl sent
    have start : Along m { registry := m.registry } m := ⟨rfl, .refl m⟩
    have along := along_handleAll start sent
    refine ⟨along.registry, along.calls.dispatcher, along.calls.recorder, ?_⟩
    intro event absent
    simp [handle, Registry.lookup, along.registry, unknown event sent absent]

def obliging : Reception where
  reply description := { responses := [{ accepted := [description.application] }] }
  own := by simp

def neighbour (id : String) : Application :=
  { id, queue := "root.q", user := "u"
    tasks := TaskSet.empty.add { id := "t-1", pod := { space := "default", name := id, uid := id } } }

def neighbours : Registry :=
  (Registry.empty.insert (neighbour "app-1")).insert (neighbour "app-2")

def interleaved : List ApplicationEvent :=
  [.submit "app-1", .submit "app-2", .fail "app-2" "full", .submit "app-3", .fail "app-1" "gone"]

theorem applications_isolated_interleaved :
    neighbours.Disjoint ∧
      (Trail.handleAll obliging { registry := neighbours } interleaved).dispatched =
        [.application { application := "app-1", kind := .accept },
          .application { application := "app-2", kind := .accept }] ∧
      (Trail.handleAll obliging { registry := neighbours } interleaved).recorded.length = 2 ∧
      (Trail.handleAll obliging { registry := neighbours } interleaved).registry.find? "app-1" =
        (Trail.handleAll obliging { registry := neighbours }
          [.submit "app-1", .fail "app-1" "gone"]).registry.find? "app-1" := by
  have disjoint : neighbours.Disjoint := by decide
  exact ⟨disjoint, by decide, rfl,
    (applications_isolated obliging neighbours disjoint "app-1" interleaved).1.1⟩

end ResourceManager

end GangScheduling
