import GangScheduling.Application.Schedule
import GangScheduling.Proofs.Application.Handle
import GangScheduling.Proofs.Placeholder.Creation
import Mathlib.Data.List.Induction
import Mathlib.Data.List.Nodup

set_option autoImplicit false

namespace GangScheduling

namespace Reservation

def shortfall (reservation : Reservation) (name : String) : Nat :=
  ((reservation.groups.filter fun group => group.name = name).map reservation.missing).sum

theorem countP_pods (reservation : Reservation) (start : PlaceholderManager)
    (members : List TaskGroup) (name : String) :
    ((reservation.pods start members).countP fun pod => pod.group = name) =
      members.countP fun group => group.name = name := by
  induction members using List.reverseRecOn with
  | nil => rfl
  | append_singleton members group ih =>
    rw [pods_append, List.countP_append, List.countP_append, ih]
    rfl

theorem countP_planned (reservation : Reservation) (name : String) :
    ((planned reservation.plan).countP fun group => group.name = name) =
      reservation.shortfall name := by
  simp only [shortfall, plan]
  induction reservation.groups with
  | nil => rfl
  | cons group rest ih =>
    rw [planned, List.map_cons, List.flatMap_cons, List.countP_append, ← planned, ih,
      List.countP_replicate]
    by_cases own : group.name = name <;> simp [own]

theorem exists_pods_of_create {reservation : Reservation} {manager : PlaceholderManager}
    (done : (manager.create reservation).2 = .ok ()) :
    ∃ pods, (manager.create reservation).1.client.created = manager.client.created ++ pods ∧
      ∀ name, (pods.countP fun pod => pod.group = name) = reservation.shortfall name := by
  refine ⟨_, congrArg PodClient.created (PlaceholderManager.created_create done).client, ?_⟩
  intro name
  rw [countP_pods, countP_planned]

theorem add_sum_sub_le (existing : Nat) (members : List Nat) :
    existing + (members.map (· - existing)).sum ≤ max existing members.sum := by
  induction members with
  | nil => simp
  | cons first rest ih =>
    simp only [List.map_cons, List.sum_cons]
    omega

theorem add_sum_sub_eq_iff (existing : Nat) (members : List Nat) :
    existing + (members.map (· - existing)).sum = max existing members.sum ↔
      existing = 0 ∨ members.sum ≤ existing ∨ (members.countP fun n => 0 < n) ≤ 1 := by
  induction members with
  | nil => simp
  | cons first rest ih =>
    have bound := add_sum_sub_le existing rest
    have unspent : existing = 0 → (rest.map (· - existing)).sum = rest.sum := by
      rintro rfl
      simp
    have none : (rest.countP fun n => 0 < n) = 0 ↔ rest.sum = 0 := by
      simp [List.countP_eq_zero, List.sum_eq_zero_iff_forall_eq_nat]
    rw [List.countP_cons]
    simp only [List.map_cons, List.sum_cons]
    by_cases wants : 0 < first
    next =>
      simp only [wants, decide_true, if_true]
      omega
    next =>
      have zero : first = 0 := by omega
      subst zero
      simpa using ih

end Reservation

namespace Gang

theorem toNat_get_desired (groups : List TaskGroup) (name : String) :
    ((GroupCounts.desired groups).get name).toNat = min GroupCounts.largest (wanted groups name) := by
  rw [GroupCounts.get, get?_desired]
  split
  next => exact GroupCounts.toNat_ofNat_min _
  next unlisted => simp [wanted_of_unlisted unlisted]

end Gang

namespace Reservation

/-- A creation that succeeds reaches what the quorum asks for under a name unless some members of
the name exist, more are wanted, and two or more of its groups want some. -/
theorem create_reaches_target_iff (manager : PlaceholderManager) (reservation : Reservation)
    (name : String) (fits : Gang.wanted reservation.groups name < 2 ^ 32)
    (done : (manager.create reservation).2 = .ok ()) :
    ∃ pods, (manager.create reservation).1.client.created = manager.client.created ++ pods ∧
      let existing := (reservation.existing.get name).toNat
      let made := pods.countP fun pod => pod.group = name
      made = ((reservation.groups.filter fun group => group.name = name).map fun group =>
          group.minMember.toNat - existing).sum ∧
        (existing + made = max existing ((GroupCounts.desired reservation.groups).get name).toNat ↔
          existing = 0 ∨ Gang.wanted reservation.groups name ≤ existing ∨
            (reservation.groups.countP fun group =>
              group.name = name ∧ 0 < group.minMember.toNat) ≤ 1) := by
  obtain ⟨pods, created, counts⟩ := exists_pods_of_create done
  have made : (pods.countP fun pod => pod.group = name) =
      ((reservation.groups.filter fun group => group.name = name).map fun group =>
        group.minMember.toNat - (reservation.existing.get name).toNat).sum := by
    rw [counts name, shortfall]
    congr 1
    refine List.map_congr_left fun group member => ?_
    have own : group.name = name := by simpa using (List.mem_filter.mp member).2
    rw [missing, own]
  refine ⟨pods, created, made, ?_⟩
  have target : ((GroupCounts.desired reservation.groups).get name).toNat =
      Gang.wanted reservation.groups name := by
    rw [Gang.toNat_get_desired]
    simp only [GroupCounts.largest, UInt32.size]
    omega
  have wants : (reservation.groups.countP fun group =>
      group.name = name ∧ 0 < group.minMember.toNat) =
        ((reservation.groups.filter fun group => group.name = name).map
          (·.minMember.toNat)).countP fun n => 0 < n := by
    rw [List.countP_map, List.countP_filter]
    congr 1
    funext group
    by_cases own : group.name = name <;> simp [own]
  have reaches := add_sum_sub_eq_iff (reservation.existing.get name).toNat
    ((reservation.groups.filter fun group => group.name = name).map (·.minMember.toNat))
  rw [List.map_map] at reaches
  rw [made, target, wants]
  exact reaches

def sharing (groups : List TaskGroup) : Reservation :=
  { application := "app-1", space := "default", queue := "root.q", user := "u", groups, owners := []
    existing := GroupCounts.empty.addOne "a", timeoutSeconds := 0 }

def oneWants : Reservation :=
  sharing [{ name := "a", minMember := 0 }, { name := "b", minMember := 2 },
    { name := "a", minMember := 3 }]

theorem create_reaches_target_iff_oneWants :
    Gang.wanted oneWants.groups "a" < 2 ^ 32 ∧
      (({} : PlaceholderManager).create oneWants).2 = .ok () ∧
      ∃ pods, (({} : PlaceholderManager).create oneWants).1.client.created = pods ∧
        1 + (pods.countP fun pod => pod.group = "a") = 3 := by
  have fits : Gang.wanted oneWants.groups "a" < 2 ^ 32 := by decide
  have done : (({} : PlaceholderManager).create oneWants).2 = .ok () := rfl
  obtain ⟨pods, created, -, reaches⟩ := create_reaches_target_iff {} oneWants "a" fits done
  exact ⟨fits, done, pods, created, reaches.mpr (.inr (.inr (by decide)))⟩

def bothWant : Reservation :=
  sharing [{ name := "a", minMember := 1 }, { name := "a", minMember := 1 }]

theorem shared_placeholder_sets_off_twice :
    (({} : PlaceholderManager).create bothWant).2 = .ok () ∧
      (({} : PlaceholderManager).create bothWant).1.client.created = [] ∧
      (bothWant.existing.get "a").toNat = 1 ∧
      ((GroupCounts.desired bothWant.groups).get "a").toNat = 2 := by
  decide

end Reservation

namespace Application

def livePlaceholders (app : Application) (group : String) : Nat :=
  app.tasks.toList.countP fun task =>
    task.placeholder && task.group = group && !task.state.isTerminal

def endedPlaceholders (app : Application) (group : String) : Nat :=
  app.tasks.toList.countP fun task =>
    task.placeholder && task.group = group && task.state.isTerminal

theorem placeholdersIn_eq (app : Application) (group : String) :
    app.placeholdersIn group = app.livePlaceholders group + app.endedPlaceholders group := by
  simp only [placeholdersIn, livePlaceholders, endedPlaceholders]
  induction app.tasks.toList with
  | nil => rfl
  | cons task rest ih =>
    simp only [List.countP_cons, ih]
    cases task.placeholder <;> cases decide (task.group = group) <;>
      cases task.state.isTerminal <;> simp <;> omega

theorem shortfall_of_distinct {app : Application} {group : TaskGroup}
    (distinct : (app.groups.map (·.name)).Nodup) (member : group ∈ app.groups) :
    app.reservation.shortfall group.name = app.need group := by
  have same : ∀ other ∈ app.reservation.groups,
      decide (other.name = group.name) = decide (other = group) := by
    intro other present
    rw [decide_eq_decide]
    exact ⟨List.inj_on_of_nodup_map distinct present member, fun same => same ▸ rfl⟩
  have once : app.reservation.groups.count group = 1 :=
    List.count_eq_one_of_mem (List.Nodup.of_map _ distinct) member
  rw [Reservation.shortfall, List.filter_congr same, List.filter_eq, once]
  simp [missing_reservation]

theorem entered_reserving {app after : Application} {event : ApplicationEvent}
    {effects : List Effect} (handled : app.handle event = .ok (after, effects))
    (outside : app.state ≠ .reserving) (entered : after.state = .reserving) :
    effects = [.spawn (.reserve app.reservation app.reservation.plan)] := by
  have route := (handle_ok handled).1
  rw [entered] at route
  have kind := Lifecycle.next_reserving route (Ne.symm outside)
  rw [kind] at route
  have asked := handle_tryReserve (Lifecycle.state_of_tryReserve route) kind
  cases asked.symm.trans handled
  rfl

/-- When a gang is reserved, the placeholders that have ended count like the others. The live ones
and those created suffice for a group if and only if the live ones did before or none has ended. -/
theorem refills_live_iff {app after : Application} {event : ApplicationEvent}
    {effects : List Effect} (handled : app.handle event = .ok (after, effects))
    (outside : app.state ≠ .reserving) (entered : after.state = .reserving)
    (distinct : (app.groups.map (·.name)).Nodup) :
    effects = [.spawn (.reserve app.reservation app.reservation.plan)] ∧
      ∀ manager : PlaceholderManager, (manager.create app.reservation).2 = .ok () →
        ∃ pods, (manager.create app.reservation).1.client.created =
            manager.client.created ++ pods ∧
          ∀ group ∈ app.groups,
            let live := app.livePlaceholders group.name
            let ended := app.endedPlaceholders group.name
            let made := pods.countP fun pod => pod.group = group.name
            live + ended + made = max group.minMember.toNat (live + ended) ∧
              (group.minMember.toNat ≤ live + made ↔
                group.minMember.toNat ≤ live ∨ ended = 0) := by
  refine ⟨entered_reserving handled outside entered, ?_⟩
  intro manager done
  obtain ⟨pods, created, counts⟩ := Reservation.exists_pods_of_create done
  refine ⟨pods, created, ?_⟩
  intro group member
  have made := counts group.name
  rw [shortfall_of_distinct distinct member, need, placeholdersIn_eq] at made
  dsimp only
  rw [made]
  omega

def placeholderIn (id group : String) (state : TaskState) : Task :=
  { id, pod := { space := "ns", name := id, uid := id }, placeholder := true, group, state }

def returning (groups : List TaskGroup) (tasks : List Task) : Application :=
  { id := "app-1", queue := "root.q", user := "u", state := .accepted, groups
    tasks := tasks.foldl .add .empty }

def mixed : Application :=
  returning [{ name := "a", minMember := 3 }, { name := "b", minMember := 1 }]
    [placeholderIn "t1" "a" .bound, placeholderIn "t2" "b" .failed,
     placeholderIn "t3" "a" .pending, placeholderIn "t4" "b" .bound]

theorem refills_live_iff_mixed :
    (mixed.groups.map (·.name)).Nodup ∧
      (({} : PlaceholderManager).create mixed.reservation).2 = .ok () ∧
      ∃ pods, (({} : PlaceholderManager).create mixed.reservation).1.client.created = pods ∧
        3 ≤ mixed.livePlaceholders "a" + pods.countP fun pod => pod.group = "a" := by
  have distinct : (mixed.groups.map (·.name)).Nodup := by decide
  have done : (({} : PlaceholderManager).create mixed.reservation).2 = .ok () := rfl
  have handled : mixed.handle mixed.afterAccepted = .ok ({ mixed with state := .reserving }, _) :=
    handle_tryReserve rfl rfl
  obtain ⟨-, refills⟩ := refills_live_iff handled (by decide) rfl distinct
  obtain ⟨pods, created, enough⟩ := refills {} done
  have first := (enough { name := "a", minMember := 3 } (.head _)).2
  exact ⟨distinct, done, pods, created, first.mpr (.inr (by decide))⟩

def crippled : Application :=
  returning [{ name := "a", minMember := 1 }] [placeholderIn "t" "a" .failed]

theorem ended_placeholder_is_not_replaced :
    (∃ effects, crippled.handle crippled.afterAccepted =
        .ok ({ crippled with state := .reserving }, effects)) ∧
      (({} : PlaceholderManager).create crippled.reservation).2 = .ok () ∧
      (({} : PlaceholderManager).create crippled.reservation).1.client.created = [] ∧
      crippled.groups = [{ name := "a", minMember := 1 }] ∧ crippled.livePlaceholders "a" = 0 := by
  refine ⟨⟨_, handle_tryReserve rfl rfl⟩, ?_⟩
  decide

end Application

end GangScheduling
