import GangScheduling.Task
import GangScheduling.TaskGroup.Counts

set_option autoImplicit false

namespace GangScheduling

namespace Gang

def shouldReserve (groups : List TaskGroup) (allocated : Nat) : Bool :=
  !groups.isEmpty && allocated == 0

def placeholders (tasks : List Task) : GroupCounts :=
  .ofNames ((tasks.filter (·.placeholder)).map (·.group))

def bound (tasks : List Task) : GroupCounts :=
  .ofNames ((tasks.filter fun task => task.placeholder && task.state = .bound).map (·.group))

def reservationComplete (groups : List TaskGroup) (tasks : List Task) : Bool :=
  GroupCounts.desired groups = bound tasks

def maySchedule : ApplicationState → (placeholder : Bool) → Bool
  | .reserving, placeholder => placeholder
  | .running, placeholder => !placeholder
  | _, _ => false

end Gang

structure Reservation where
  application : String
  space : String
  queue : String
  user : String
  groups : List TaskGroup
  owners : List OwnerReference
  existing : GroupCounts
  timeoutSeconds : Int64
deriving DecidableEq

namespace Reservation

def missing (reservation : Reservation) (group : TaskGroup) : Nat :=
  group.minMember.toNat - (reservation.existing.get group.name).toNat

def plan (reservation : Reservation) : List (TaskGroup × Nat) :=
  reservation.groups.map fun group => (group, reservation.missing group)

end Reservation

end GangScheduling
