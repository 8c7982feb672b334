import GangScheduling.ResourceManager

set_option autoImplicit false

namespace GangScheduling

inductive Place
  | registered (id : String)
  | apart (app : Application)

inductive TaskPlace
  -- In the application that the number stands for.
  | member (holder : Nat) (id : String)
  | apart (task : Task)

structure Session where
  manager : ResourceManager
  places : List (Nat × Place) := []
  names : NameMap Nat := .empty
  tasks : NameMap TaskPlace := .empty
  -- How many tasks were added.
  added : Nat := 0

namespace Session

def fresh (s : Session) : Nat :=
  s.places.foldl (fun n entry => max n (entry.1 + 1)) 0

def setPlace (s : Session) (number : Nat) (place : Place) : Session :=
  { s with places := (number, place) :: s.places.filter fun entry => entry.1 ≠ number }

def name (s : Session) (name : String) (number : Nat) : Session :=
  { s with names := s.names.insert name number }

def numberOf (s : Session) (id : String) : Option Nat :=
  (s.places.find? fun entry =>
    match entry.2 with
    | .registered held => held = id
    | .apart _ => false).map (·.1)

def applicationAt (s : Session) (number : Nat) : Option Application :=
  match s.places.lookup number with
  | some (.registered id) => s.manager.registry.find? id
  | some (.apart app) => some app
  | none => none

def application? (s : Session) (name : String) : Option Application :=
  (s.names.get? name).bind s.applicationAt

def states (s : Session) : List (String × ApplicationState) :=
  s.names.entries.filterMap fun entry =>
    (s.applicationAt entry.2).map fun app => (entry.1, app.state)

def onManager (s : Session) (change : ResourceManager → ResourceManager) : Session :=
  { s with manager := change s.manager }

def putAt (s : Session) (number : Nat) (app : Application) : Session :=
  match s.places.lookup number with
  | some (.registered _) => s.onManager (·.update app)
  | _ => s.setPlace number (.apart app)

def put (s : Session) (name : String) (app : Application) : Session :=
  match s.names.get? name with
  | none => s
  | some number => s.putAt number app

def apply (s : Session) (name : String) (result : Application × List Effect) : Session :=
  (s.put name result.1).onManager (·.performAll result.2)

def register (s : Session) (name : String) (manifest : Manifest) : Session × Application × Bool :=
  match s.manager.registry.find? manifest.id with
  | some app => (s.name name ((s.numberOf manifest.id).getD s.fresh), app, true)
  | none =>
    let added := s.onManager fun m => { m with registry := m.registry.add manifest }
    ((added.setPlace s.fresh (.registered manifest.id)).name name s.fresh, manifest.application,
      false)

def keep (s : Session) (name : String) (app : Application) : Session :=
  (s.setPlace s.fresh (.apart app)).name name s.fresh

def unregister (s : Session) (id : String) : Except Error Session :=
  match s.manager.registry.lookup id with
  | .error fault => .error fault
  | .ok app =>
    let kept := match s.numberOf id with
      | some number => s.setPlace number (.apart app)
      | none => s
    .ok (kept.onManager fun m => { m with registry := m.registry.remove id })

def addTask (s : Session) (owner : String) (name : String) (task : Task) : Session :=
  match s.names.get? owner, s.application? owner with
  | some number, some app =>
    let place := match app.tasks.find? task.id with
      | some _ => TaskPlace.apart task
      | none => TaskPlace.member number task.id
    { s.putAt number (app.addTask task) with
      tasks := s.tasks.insert name place
      added := s.added + 1 }
  | _, _ => s

def removeTask (s : Session) (owner id : String) : Except Error Session :=
  match s.names.get? owner, s.application? owner with
  | some number, some app =>
    match app.task id, app.removeTask id with
    | .ok task, .ok after =>
      let places := s.tasks.entries.map fun entry =>
        match entry.2 with
        | .member holder held =>
          if holder = number ∧ held = id then (entry.1, TaskPlace.apart task) else entry
        | .apart _ => entry
      .ok { s.putAt number after with tasks := .ofEntries places }
    | .error fault, _ | _, .error fault => .error fault
  | _, _ => .ok s

def task? (s : Session) (name : String) : Option Task :=
  match s.tasks.get? name with
  | some (.member holder id) => (s.applicationAt holder).bind (·.tasks.find? id)
  | some (.apart task) => some task
  | none => none

def changeTask (s : Session) (name : String) (change : Task → Task) : Session :=
  match s.tasks.get? name with
  | some (.member holder id) =>
    match s.applicationAt holder with
    | some app => s.putAt holder (app.modifyTasks fun task =>
        if task.id = id then change task else task)
    | none => s
  | some (.apart task) => { s with tasks := s.tasks.insert name (.apart (change task)) }
  | none => s

end Session

end GangScheduling
