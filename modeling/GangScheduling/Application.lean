import GangScheduling.Gang
import GangScheduling.Scheduler

set_option autoImplicit false

namespace GangScheduling

structure Application where
  id : String
  queue : String
  partition : String := "default"
  user : String
  tags : NameMap String := .empty
  state : ApplicationState := .new
  tasks : TaskSet := .empty
  policy : SchedulingPolicy := {}
  groups : List TaskGroup := []
  owners : List OwnerReference := []
  -- What the task groups ask for, once some were set.
  ask : Option Resource := none
  timeoutSeconds : Int64 := 0
deriving DecidableEq

namespace Application

def addTask (app : Application) (task : Task) : Application :=
  { app with tasks := app.tasks.add task }

def removeTask (app : Application) (id : String) : Except Error Application :=
  match app.tasks.find? id with
  | some _ => .ok { app with tasks := app.tasks.remove id }
  | none => .error (.taskNotFound app.id id)

def task (app : Application) (id : String) : Except Error Task :=
  match app.tasks.find? id with
  | some found => .ok found
  | none => .error (.taskNotFound app.id id)

def modifyTasks (app : Application) (change : Task → Task) : Application :=
  { app with tasks := app.tasks.modify change }

/-- Replaces the groups. The ask takes the new groups in addition to all earlier ones. -/
def setGroups (app : Application) (groups : List TaskGroup) : Application :=
  { app with
    groups
    ask := some (groups.foldl (fun ask group => ask + group.ask) (app.ask.getD .empty)) }

def liveAliases (app : Application) : List String :=
  ((app.tasks.toList.filter fun task => !task.state.isTerminal).map (·.pod.alias)).mergeSort
    fun a b => a ≤ b

def display (app : Application) : String :=
  s!"application {app.id} (queue {app.queue}, partition {app.partition}, "
    ++ s!"tasks {app.tasks.size}, state {app.state.name})"

def space (app : Application) : String :=
  (app.tags.get? "namespace").getD "default"

def reservation (app : Application) : Reservation :=
  { application := app.id
    space := app.space
    queue := app.queue
    user := app.user
    groups := app.groups
    owners := app.owners
    existing := Gang.placeholders app.tasks.toList
    timeoutSeconds := app.timeoutSeconds }

def description (app : Application) (ask : Option Resource) : AddApplication :=
  { application := app.id
    queue := app.queue
    partition := app.partition
    user := app.user
    tags := app.tags
    ask
    timeoutMillis := saturatingMul app.timeoutSeconds 1000 }

end Application

end GangScheduling
