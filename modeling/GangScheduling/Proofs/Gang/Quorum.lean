import GangScheduling.Application.Handle
import GangScheduling.Proofs.Gang.Counts

set_option autoImplicit false

namespace GangScheduling

namespace Gang

def wanted (groups : List TaskGroup) (name : String) : Nat :=
  ((groups.filter fun group => group.name = name).map (·.minMember.toNat)).sum

def boundMembers (tasks : List Task) (name : String) : Nat :=
  tasks.countP fun task => task.placeholder && task.state = .bound && task.group = name

theorem total_members (groups : List TaskGroup) (name : String) :
    GroupCounts.total (groups.map fun group => (group.name, group.minMember)) name =
      wanted groups name := by
  simp [GroupCounts.total, wanted, List.filter_map, Function.comp_def]

theorem wanted_of_unlisted {groups : List TaskGroup} {name : String}
    (unlisted : name ∉ groups.map (·.name)) : wanted groups name = 0 := by
  rw [← total_members]
  apply GroupCounts.total_of_not_mem
  simpa [Function.comp_def] using unlisted

theorem get?_desired (groups : List TaskGroup) (name : String) :
    (GroupCounts.desired groups).counts.get? name =
      if name ∈ groups.map (·.name) then
        some (UInt32.ofNat (min GroupCounts.largest (wanted groups name)))
      else none := by
  rw [GroupCounts.desired_eq_addAll, GroupCounts.get?_addAll, total_members]
  simp [GroupCounts.empty, GroupCounts.get, Function.comp_def]

theorem count_groups (tasks : List Task) (chosen : Task → Bool) (name : String) :
    ((tasks.filter chosen).map (·.group)).count name =
      tasks.countP fun task => chosen task && task.group = name := by
  simp only [List.count, List.countP_map, List.countP_filter]
  congr 1
  funext task
  by_cases same : task.group = name <;> simp [same]

theorem count_bound_groups (tasks : List Task) (name : String) :
    ((tasks.filter fun task => task.placeholder && task.state = .bound).map (·.group)).count name =
      boundMembers tasks name :=
  count_groups tasks _ name

theorem get?_bound (tasks : List Task) (name : String) :
    (bound tasks).counts.get? name =
      if 0 < boundMembers tasks name then
        some (UInt32.ofNat (min GroupCounts.largest (boundMembers tasks name)))
      else none := by
  rw [bound, GroupCounts.get?_ofNames, count_bound_groups]

theorem ofNat_min_inj {a b : Nat} (fitsA : a < 2 ^ 32) (fitsB : b < 2 ^ 32) :
    UInt32.ofNat (min GroupCounts.largest a) = UInt32.ofNat (min GroupCounts.largest b) ↔
      a = b := by
  constructor
  next =>
    intro same
    have numbers := congrArg UInt32.toNat same
    rw [GroupCounts.toNat_ofNat_min, GroupCounts.toNat_ofNat_min] at numbers
    simp only [GroupCounts.largest, UInt32.size] at numbers
    omega
  next => exact fun same => same ▸ rfl

theorem desired_eq_bound_iff {groups : List TaskGroup} {tasks : List Task}
    (wantedFits : ∀ name, wanted groups name < 2 ^ 32)
    (boundFits : ∀ name, boundMembers tasks name < 2 ^ 32) :
    GroupCounts.desired groups = bound tasks ↔
      (∀ name, wanted groups name = boundMembers tasks name) ∧
        ∀ group ∈ groups, 0 < wanted groups group.name := by
  constructor
  next =>
    intro same
    -- A listed name has an entry, be it a zero, and a name without bound placeholders has none.
    have entry (name : String) := congrArg (fun counts => counts.counts.get? name) same
    simp only [get?_desired, get?_bound] at entry
    constructor
    next =>
      intro name
      have h := entry name
      by_cases listed : name ∈ groups.map (·.name)
      next =>
        by_cases some : 0 < boundMembers tasks name
        next =>
          simp only [listed, some, if_true, Option.some.injEq] at h
          exact (ofNat_min_inj (wantedFits name) (boundFits name)).mp h
        next => simp [listed, some] at h
      next =>
        rw [wanted_of_unlisted listed]
        by_cases some : 0 < boundMembers tasks name
        next => simp [listed, some] at h
        next => omega
    next =>
      intro group member
      have listed : group.name ∈ groups.map (·.name) := List.mem_map_of_mem member
      have h := entry group.name
      by_cases some : 0 < boundMembers tasks group.name
      next =>
        simp only [listed, some, if_true, Option.some.injEq] at h
        have numbers := (ofNat_min_inj (wantedFits group.name) (boundFits group.name)).mp h
        omega
      next => simp [listed, some] at h
  next =>
    rintro ⟨numbers, positive⟩
    apply GroupCounts.ext_get?
    intro name
    rw [get?_desired, get?_bound, numbers name]
    by_cases listed : name ∈ groups.map (·.name)
    next =>
      -- Only here it matters that the name wants some member.
      obtain ⟨group, member, rfl⟩ := List.mem_map.mp listed
      have some : 0 < boundMembers tasks group.name := numbers group.name ▸ positive group member
      simp only [listed, some, if_true]
    next =>
      have zero : boundMembers tasks name = 0 := numbers name ▸ wanted_of_unlisted listed
      simp [listed, zero]

theorem handle_updateReservation {app : Application} {event : ApplicationEvent}
    (reserving : app.state = .reserving) (kind : event.kind = .updateReservation) :
    app.handle event = .ok (app,
      if reservationComplete app.groups app.tasks.toList then
        [.dispatch (.application (.run app.id))]
      else []) := by
  have next : Lifecycle.next .reserving .updateReservation = some .reserving := by decide
  have same : { app with state := .reserving } = app := by cases app; simp_all
  simp [Application.handle, Application.respond, kind, reserving, next, same]

theorem empty_group_never_completes :
    (∀ name, wanted [{ name := "a", minMember := 0 }] name = boundMembers [] name) ∧
      reservationComplete [{ name := "a", minMember := 0 }] [] = false := by
  constructor
  next =>
    intro name
    by_cases same : "a" = name <;> simp [wanted, boundMembers, same]
  next => decide

end Gang

end GangScheduling
