import GangScheduling.TaskGroup

set_option autoImplicit false

namespace GangScheduling

structure GroupCounts where
  counts : NameMap UInt32
deriving DecidableEq

namespace GroupCounts

def empty : GroupCounts := { counts := .empty }

instance : Inhabited GroupCounts := ⟨empty⟩

def get (counts : GroupCounts) (group : String) : UInt32 :=
  (counts.counts.get? group).getD 0

def largest : Nat := UInt32.size - 1

/-- Counts stop at the largest 32-bit number. -/
def add (counts : GroupCounts) (group : String) (n : UInt32) : GroupCounts :=
  { counts := counts.counts.insert group
      (UInt32.ofNat (min largest ((counts.get group).toNat + n.toNat))) }

def addOne (counts : GroupCounts) (group : String) : GroupCounts :=
  counts.add group 1

def size (counts : GroupCounts) : Nat :=
  counts.counts.size

def isEmpty (counts : GroupCounts) : Bool :=
  counts.counts.isEmpty

theorem get_add (counts : GroupCounts) (group key : String) (n : UInt32) :
    (counts.add group n).get key =
      if key = group then UInt32.ofNat (min largest ((counts.get group).toNat + n.toNat))
      else counts.get key := by
  simp only [add, get, NameMap.get?_insert]
  split <;> rfl

def ofNames (names : List String) : GroupCounts :=
  names.foldl addOne empty

def desired (groups : List TaskGroup) : GroupCounts :=
  groups.foldl (fun counts group => counts.add group.name group.minMember) empty

end GroupCounts

end GangScheduling
