import GangScheduling.Proofs.Gang.Quorum
import GangScheduling.Proofs.ResourceManager.FollowUp
import GangScheduling.Proofs.System.Atomic

set_option autoImplicit false

namespace GangScheduling

theorem System.queue_updateReservation {s : System} {holder : Holder} {app : Application}
    {event : ApplicationEvent} {complete : Bool} (found : s.find? holder = some app)
    (handled : app.handle event = .ok (app,
      if complete then [.dispatch (.application (.run app.id))] else []))
    (running : s.manager.dispatcher.running = true) :
    (s.step (.handle holder event)).queue =
      s.queue ++ if complete then [.event (.application (.run app.id))] else [] := by
  have same := (s.put_frame holder app).1
  rw [(step_handle_legal found handled).1]
  cases complete with
  | false =>
    have kept : (s.apply holder (app, [])).queue = s.queue := congrArg Dispatcher.queue same
    exact kept.trans (List.append_nil _).symm
  | true =>
    have added := (ResourceManager.adds_dispatch (same ▸ running)
      (.application (.run app.id))).queue
    rw [same] at added
    exact added

namespace Gang

/-- With numbers that fit, a reservation is complete if and only if every name has as many bound
placeholders as its groups want, and each group is one of a name that wants some. -/
theorem reservationComplete_iff (groups : List TaskGroup) (tasks : List Task)
    (wantedFits : ∀ name, wanted groups name < 2 ^ 32)
    (boundFits : ∀ name, boundMembers tasks name < 2 ^ 32) :
    (reservationComplete groups tasks = true ↔
      (∀ name, wanted groups name = boundMembers tasks name) ∧
        ∀ group ∈ groups, 0 < wanted groups group.name) ∧
    ∀ (app : Application) (event : ApplicationEvent),
      app.groups = groups → app.tasks.toList = tasks →
      app.state = .reserving → event.kind = .updateReservation →
      ∃ effects, app.handle event = .ok (app, effects) ∧
        (Effect.dispatch (.application (.run app.id)) ∈ effects ↔
          (∀ name, wanted groups name = boundMembers tasks name) ∧
            ∀ group ∈ groups, 0 < wanted groups group.name) ∧
        ∀ (s : System) (holder : Holder), s.find? holder = some app →
          s.manager.dispatcher.running = true →
          ((s.step (.handle holder event)).queue = s.queue ++ [.event (.application (.run app.id))] ↔
            reservationComplete groups tasks = true) ∧
          ((s.step (.handle holder event)).queue = s.queue ↔
            reservationComplete groups tasks = false) ∧
          (holder = .registered event.application →
            (s.manager.deliver (.application event)).dispatcher =
              (s.step (.handle holder event)).manager.dispatcher) := by
  have complete : reservationComplete groups tasks = true ↔
      (∀ name, wanted groups name = boundMembers tasks name) ∧
        ∀ group ∈ groups, 0 < wanted groups group.name := by
    rw [reservationComplete, decide_eq_true_iff]
    exact desired_eq_bound_iff wantedFits boundFits
  refine ⟨complete, ?_⟩
  rintro app event rfl rfl reserving kind
  have handled := handle_updateReservation reserving kind
  refine ⟨_, handled, ?_, ?_⟩
  next =>
    rw [← complete]
    split <;> simp_all
  next =>
    intro s holder found running
    have queue := System.queue_updateReservation found handled running
    refine ⟨?_, ?_, ?_⟩
    next => cases done : reservationComplete app.groups app.tasks.toList <;> simp [queue, done]
    next => cases done : reservationComplete app.groups app.tasks.toList <;> simp [queue, done]
    next =>
      rintro rfl
      obtain ⟨notices, delivered⟩ := System.deliver_application s event
      rw [delivered]
      rfl

def pairGroups : List TaskGroup :=
  [{ name := "driver", minMember := 1 }, { name := "worker", minMember := 0 },
   { name := "worker", minMember := 1 }]

def boundPlaceholder (id group : String) : Task :=
  { id, pod := { space := "ns", name := id, uid := id }, placeholder := true, group,
    state := .bound }

def pairTasks : List Task :=
  [boundPlaceholder "t1" "worker", boundPlaceholder "t2" "driver"]

def pairApplication : Application :=
  { id := "app-1", queue := "root.q", user := "u", state := .reserving, groups := pairGroups
    tasks := { toList := pairTasks, distinct := by decide } }

def pairSystem : System :=
  { manager :=
      { config := { workerThreads := 1 }
        registry := Registry.empty.insert pairApplication
        dispatcher := { running := true } } }

theorem wanted_pairGroups_le (name : String) : wanted pairGroups name ≤ 2 := by
  by_cases driver : "driver" = name
  next => subst driver; decide
  next => by_cases worker : "worker" = name <;> simp [wanted, pairGroups, driver, worker]

theorem boundMembers_pairTasks_le (name : String) : boundMembers pairTasks name ≤ 2 :=
  List.countP_le_length

theorem reservationComplete_iff_pair :
    (∀ name, wanted pairGroups name < 2 ^ 32) ∧ (∀ name, boundMembers pairTasks name < 2 ^ 32) ∧
      (reservationComplete pairGroups pairTasks = true ↔
        (∀ name, wanted pairGroups name = boundMembers pairTasks name) ∧
          ∀ group ∈ pairGroups, 0 < wanted pairGroups group.name) ∧
      (pairSystem.step (.handle (.registered "app-1")
          { application := "app-1", kind := .updateReservation })).queue =
        [.event (.application (.run "app-1"))] := by
  have wantedFits (name : String) : wanted pairGroups name < 2 ^ 32 :=
    Nat.lt_of_le_of_lt (wanted_pairGroups_le name) (by decide)
  have boundFits (name : String) : boundMembers pairTasks name < 2 ^ 32 :=
    Nat.lt_of_le_of_lt (boundMembers_pairTasks_le name) (by decide)
  obtain ⟨counts, handled⟩ := reservationComplete_iff pairGroups pairTasks wantedFits boundFits
  obtain ⟨-, -, -, sent⟩ := handled pairApplication
    { application := "app-1", kind := .updateReservation } rfl rfl rfl rfl
  have complete : reservationComplete pairGroups pairTasks = true := by decide
  exact ⟨wantedFits, boundFits, counts,
    (sent pairSystem (.registered "app-1") rfl rfl).1.mpr complete⟩

end Gang

end GangScheduling
