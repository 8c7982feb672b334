import GangScheduling.Event

set_option autoImplicit false

namespace GangScheduling

inductive TaskState
  | new
  | pending
  | scheduling
  | allocated
  | rejected
  | bound
  | killing
  | killed
  | failed
  | completed
deriving DecidableEq, Repr

namespace TaskState

def all : List TaskState :=
  [.new, .pending, .scheduling, .allocated, .rejected, .bound, .killing, .killed, .failed,
   .completed]

def name : TaskState → String
  | .new => "New"
  | .pending => "Pending"
  | .scheduling => "Scheduling"
  | .allocated => "Allocated"
  | .rejected => "Rejected"
  | .bound => "Bound"
  | .killing => "Killing"
  | .killed => "Killed"
  | .failed => "Failed"
  | .completed => "Completed"

def isTerminal : TaskState → Bool
  | .rejected | .completed | .failed | .killed => true
  | _ => false

def isUnallocated : TaskState → Bool
  | .new | .pending | .scheduling => true
  | _ => false

end TaskState

structure Pod where
  space : String
  name : String
  uid : String
deriving DecidableEq, Repr

def Pod.alias (pod : Pod) : String :=
  pod.space ++ "/" ++ pod.name

structure Task where
  id : String
  pod : Pod
  placeholder : Bool := false
  group : String := ""
  created : Nat := 0
  state : TaskState := .new
  allocation : Option String := none
  -- Why the task was released, once it was.
  termination : Option TerminationType := none
  -- Why the task cannot be scheduled yet.
  notReady : Option String := none
  -- How often the deletion of the pod was requested.
  deletions : Nat := 0
  -- Why a request to delete the pod cannot be issued.
  deletionFault : Option String := none
deriving DecidableEq, Repr

namespace Task

def release (task : Task) (termination : TerminationType) : Task :=
  { task with termination := some termination }

def requestDeletion (task : Task) : Task :=
  { task with deletions := task.deletions + 1 }

def deletionError? (task : Task) : Option Error :=
  task.deletionFault.map .task

def readiness (task : Task) : Except Error Unit :=
  match task.notReady with
  | none => .ok ()
  | some reason => .error (.task reason)

end Task

structure TaskSet where
  toList : List Task
  distinct : (toList.map (·.id)).Nodup
deriving DecidableEq

namespace TaskSet

def empty : TaskSet := { toList := [], distinct := List.nodup_nil }

instance : Inhabited TaskSet := ⟨empty⟩

def size (tasks : TaskSet) : Nat :=
  tasks.toList.length

def find? (tasks : TaskSet) (id : String) : Option Task :=
  tasks.toList.find? fun task => task.id = id

def add (tasks : TaskSet) (task : Task) : TaskSet :=
  if h : task.id ∈ tasks.toList.map (·.id) then tasks
  else
    { toList := tasks.toList ++ [task]
      distinct := by
        rw [List.map_append, List.nodup_append]
        refine ⟨tasks.distinct, by simp, fun a memA b memB same => ?_⟩
        have last : b = task.id := by simpa using memB
        exact h (last ▸ same ▸ memA) }

def remove (tasks : TaskSet) (id : String) : TaskSet :=
  { toList := tasks.toList.filter fun task => task.id ≠ id
    distinct := (List.Sublist.map _ (List.filter_sublist)).nodup tasks.distinct }

def modify (tasks : TaskSet) (change : Task → Task) : TaskSet :=
  { toList := tasks.toList.map fun task => { change task with id := task.id }
    distinct := by simpa [Function.comp_def] using tasks.distinct }

def inState (tasks : TaskSet) (state : TaskState) : List Task :=
  tasks.toList.filter fun task => task.state = state

def oldestFirst (tasks : TaskSet) (state : TaskState) : List Task :=
  (tasks.inState state).mergeSort fun a b => a.created ≤ b.created

end TaskSet

end GangScheduling
