import GangScheduling.Proofs.Gang.Quorum

set_option autoImplicit false

namespace GangScheduling

def planned (plan : List (TaskGroup × Nat)) : List TaskGroup :=
  plan.flatMap fun entry => List.replicate entry.2 entry.1

@[simp] theorem planned_nil : planned [] = [] := rfl

@[simp] theorem planned_zero (group : TaskGroup) (rest : List (TaskGroup × Nat)) :
    planned ((group, 0) :: rest) = planned rest := rfl

@[simp] theorem planned_succ (group : TaskGroup) (missing : Nat) (rest : List (TaskGroup × Nat)) :
    planned ((group, missing + 1) :: rest) = group :: planned ((group, missing) :: rest) := rfl

namespace Application

def placeholdersIn (app : Application) (group : String) : Nat :=
  app.tasks.toList.countP fun task => task.placeholder && task.group = group

def need (app : Application) (group : TaskGroup) : Nat :=
  group.minMember.toNat - app.placeholdersIn group.name

def lacking (app : Application) : List TaskGroup :=
  app.groups.flatMap fun group => List.replicate (app.need group) group

theorem toNat_get_placeholders (tasks : List Task) (group : String) :
    ((Gang.placeholders tasks).get group).toNat =
      min GroupCounts.largest
        (tasks.countP fun task => task.placeholder && task.group = group) := by
  rw [GroupCounts.get, Gang.placeholders, GroupCounts.get?_ofNames, Gang.count_groups]
  split
  next => exact GroupCounts.toNat_ofNat_min _
  next zero =>
    have none : (tasks.countP fun task => task.placeholder && task.group = group) = 0 := by omega
    simp [none]

theorem missing_reservation (app : Application) (group : TaskGroup) :
    app.reservation.missing group = app.need group := by
  have most : group.minMember.toNat ≤ GroupCounts.largest := by
    have below := group.minMember.toNat_lt
    simp only [GroupCounts.largest, UInt32.size]
    omega
  simp only [Reservation.missing, reservation, need, toNat_get_placeholders, placeholdersIn]
  omega

theorem planned_reservation (app : Application) : planned app.reservation.plan = app.lacking := by
  simp only [planned, Reservation.plan, List.flatMap_map, missing_reservation]
  rfl

end Application

end GangScheduling
