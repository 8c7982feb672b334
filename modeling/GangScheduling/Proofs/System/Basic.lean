import GangScheduling.Proofs.Application.Edit
import GangScheduling.Proofs.Application.Schedule
import GangScheduling.Proofs.Registry
import GangScheduling.Proofs.ResourceManager.Step

set_option autoImplicit false

namespace GangScheduling

/-- Where an application is kept: in the registry, or by a caller only. -/
inductive Holder
  | registered (id : String)
  | apart (index : Nat)
deriving DecidableEq

/-- The component together with the applications that callers hold outside of its registry. -/
structure System where
  manager : ResourceManager
  apart : List Application := []

namespace System

inductive Move
  | create (manifest : Manifest)
  | register (manifest : Manifest)
  | unregister (id : String)
  | edit (holder : Holder) (edit : Edit)
  | handle (holder : Holder) (event : ApplicationEvent)
  | schedule (holder : Holder)
  | dispatch (event : Event)
  | respond (response : UpdateResponse)
  -- The consumer goes on by one step.
  | advance
  -- The background work at that place goes on by one step.
  | work (index : Nat)
  | install
  | start
  | stop
  | replaceScheduler (scheduler : Scheduler Unit)
  | replaceClient (client : PodClient)

def find? (s : System) : Holder → Option Application
  | .registered id => s.manager.registry.find? id
  | .apart index => s.apart[index]?

def applications (s : System) : List Application :=
  s.manager.registry.toList ++ s.apart

def queue (s : System) : List Entry :=
  s.manager.dispatcher.queue

def put (s : System) (holder : Holder) (app : Application) : System :=
  match holder with
  | .registered _ => { s with manager := s.manager.update app }
  | .apart index => { s with apart := s.apart.set index app }

def apply (s : System) (holder : Holder) (result : Application × List Effect) : System :=
  { s.put holder result.1 with manager := (s.put holder result.1).manager.performAll result.2 }

def onManager (s : System) (change : ResourceManager → ResourceManager) : System :=
  { s with manager := change s.manager }

def handle (s : System) (holder : Holder) (event : ApplicationEvent) : System :=
  match s.find? holder with
  | none => s
  | some app =>
    match app.handle event with
    | .error _ => s
    | .ok result => s.apply holder result

def schedule (s : System) (holder : Holder) : System :=
  match s.find? holder with
  | none => s
  | some app => s.apply holder app.schedule

def unregister (s : System) (id : String) : System :=
  match s.manager.registry.find? id with
  | none => s
  | some app =>
    { manager := { s.manager with registry := s.manager.registry.remove id }
      apart := s.apart ++ [app] }

def step (s : System) : Move → System
  | .create manifest => { s with apart := s.apart ++ [manifest.application] }
  | .register manifest =>
    s.onManager fun m => { m with registry := m.registry.add manifest }
  | .unregister id => s.unregister id
  | .edit holder edit =>
    match s.find? holder with
    | none => s
    | some app => s.put holder (app.edit edit)
  | .handle holder event => s.handle holder event
  | .schedule holder => s.schedule holder
  | .dispatch event => s.onManager (·.dispatch event)
  | .respond response => s.onManager fun m => (m.respond response).toOption.getD m
  | .advance => s.onManager fun m => (m.advance fun _ => false).getD m
  | .work index => s.onManager (·.work index)
  | .install => s.onManager (·.registerHandlers)
  | .start => s.onManager (·.startDispatcher)
  | .stop => s.onManager fun m => { m with dispatcher := m.dispatcher.stop }
  | .replaceScheduler scheduler => s.onManager ({ · with scheduler })
  | .replaceClient client =>
    s.onManager fun m => { m with placeholders := { m.placeholders with client } }

def run (s : System) (moves : List Move) : System :=
  moves.foldl step s

def sends (s : System) (kind : EventKind) (id : String) : Move → Prop
  | .dispatch (.application event) => event.application = id ∧ event.kind = kind
  | .handle holder event => event.kind = kind ∧ ∃ app, s.find? holder = some app ∧ app.id = id
  | _ => False

def Without (kind : EventKind) (id : String) : System → List Move → Prop
  | _, [] => True
  | s, move :: rest => ¬ s.sends kind id move ∧ Without kind id (s.step move) rest

theorem Without.of_append {kind : EventKind} {id : String} {s : System} {before after : List Move}
    (without : s.Without kind id (before ++ after)) : s.Without kind id before := by
  induction before generalizing s with
  | nil => trivial
  | cons move rest ih => exact ⟨without.1, ih without.2⟩

/-- What happens in a run, with the applications as they were just before. -/
inductive Observation
  | scheduled (holder : Holder) (app : Application)
  -- A legal event, whether it came from outside or through the queue.
  | handled (holder : Holder) (app : Application) (event : ApplicationEvent)
  | answered (response : UpdateResponse)
  | worked (milestone : ResourceManager.Milestone)

def observeHandle (s : System) (holder : Holder) (event : ApplicationEvent) : List Observation :=
  match s.find? holder with
  | some app => if app.canHandle event.kind then [.handled holder app event] else []
  | none => []

def observeSchedule (s : System) (holder : Holder) : List Observation :=
  match s.find? holder with
  | some app =>
    .scheduled holder app ::
      if app.state = .new then s.observeHandle holder (.submit app.id) else []
  | none => []

def observe (s : System) : Move → List Observation
  | .handle holder event => s.observeHandle holder event
  | .schedule holder => s.observeSchedule holder
  | .respond response =>
    if s.manager.scheduler.receiver.isSome then [.answered response] else []
  | .advance =>
    match s.manager.delivery? with
    | some (.application event) => s.observeHandle (.registered event.application) event
    | _ => []
  | .work index => (s.manager.worked index).toList.map .worked
  | _ => []

def observed : System → List Move → List Observation
  | _, [] => []
  | s, move :: rest => s.observe move ++ observed (s.step move) rest

theorem run_append (s : System) (first second : List Move) :
    s.run (first ++ second) = (s.run first).run second :=
  List.foldl_append

theorem observed_append (s : System) (first second : List Move) :
    s.observed (first ++ second) = s.observed first ++ (s.run first).observed second := by
  induction first generalizing s with
  | nil => rfl
  | cons move rest ih =>
    simp only [List.cons_append, observed, ih, List.append_assoc]
    rfl

def Observation.subject? : Observation → Option Application
  | .scheduled _ app | .handled _ app _ => some app
  | _ => none

def Observation.effects : Observation → List Effect
  | .scheduled _ app => if app.state = .new then [] else app.schedule.2
  | .handled _ app event =>
    match app.handle event with
    | .ok (_, effects) => effects
    | .error _ => []
  | _ => []

def oneWorker : Manifest :=
  { id := "app-1", queue := "root.q", user := "u"
    groups := [{ name := "workers", minMember := 1 }] }

def roomy : System :=
  { manager :=
      { config := { workerThreads := 1 }
        registry := Registry.empty.add oneWorker
        dispatcher := {}
        scheduler := { acceptsAll := true, receiver := some () } } }

end System

end GangScheduling
