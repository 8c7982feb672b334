import GangScheduling.Config
import GangScheduling.Dispatcher
import GangScheduling.Placeholder
import GangScheduling.Recorder
import GangScheduling.Registry
import GangScheduling.ScheduleLoop

set_option autoImplicit false

namespace GangScheduling

structure ResourceManager where
  config : Config
  -- Task events are collected.
  collectsTasks : Bool := true
  registry : Registry := .empty
  dispatcher : Dispatcher Unit
  scheduler : Scheduler Unit := {}
  placeholders : PlaceholderManager := {}
  recorder : Recorder := .log
  jobs : List Job := []
  loop : Option ScheduleLoop := none
  now : Nat := 0
  taskEvents : List TaskEvent := []
  notices : List Notice := []

namespace ResourceManager

def build (config : Config) (scheduler : Option (Scheduler Unit))
    (placeholders : Option PlaceholderManager) (recorder : Recorder) (collectsTasks : Bool) :
    Except Failure ResourceManager :=
  -- A configuration that is not valid is reported before a collaborator that is missing.
  match config.validated, scheduler, placeholders with
  | .error failure, _, _ => .error failure
  | .ok _, none, _ => .error (.other "scheduler api is required")
  | .ok _, some _, none => .error (.other "placeholder manager is required")
  | .ok config, some scheduler, some placeholders =>
    .ok
      { config
        collectsTasks
        dispatcher := { threshold := config.backlogThreshold.toNat }
        scheduler
        placeholders
        recorder }

def note (m : ResourceManager) (notices : List Notice) : ResourceManager :=
  { m with notices := m.notices ++ notices }

def dispatch (m : ResourceManager) (event : Event) : ResourceManager :=
  let (dispatcher, notices) := m.dispatcher.dispatch event
  { m with dispatcher }.note notices

def announce (m : ResourceManager) (kind : EventKind) (application : String) : ResourceManager :=
  match m.registry.find? application with
  | some _ => m.dispatch (.application { application, kind })
  | none => m.note [.responseUnknown application kind]

def receive (m : ResourceManager) (response : UpdateResponse) : ResourceManager :=
  let accepted := response.accepted.foldl (fun m id => m.announce .accept id) m
  response.rejected.foldl (fun m rejection => m.announce .reject rejection.application) accepted

def request (m : ResourceManager) (description : AddApplication) : UpdateRequest :=
  { applications := [description], manager := m.config.clusterId }

def submit (m : ResourceManager) (description : AddApplication) : ResourceManager :=
  match m.scheduler.update (m.request description) with
  | .error fault =>
    (m.note [.submissionFailed description.application fault]).dispatch
      (.application (.fail description.application fault.message))
  | .ok (scheduler, none) => { m with scheduler }
  | .ok (scheduler, some (_, response)) => { m with scheduler }.receive response

def record (m : ResourceManager) (event : PodEvent) : ResourceManager :=
  let (recorder, notices) := m.recorder.record event
  { m with recorder }.note notices

def perform (m : ResourceManager) : Effect → ResourceManager
  | .submit description => m.submit description
  | .dispatch event => m.dispatch event
  | .record event => m.record event
  | .spawn job => { m with jobs := m.jobs ++ [job] }
  | .note notice => m.note [notice]

def performAll (m : ResourceManager) (effects : List Effect) : ResourceManager :=
  effects.foldl perform m

def update (m : ResourceManager) (app : Application) : ResourceManager :=
  { m with registry := m.registry.modify app.id fun _ => app }

def handle (m : ResourceManager) (event : ApplicationEvent) : Except Error ResourceManager :=
  match m.registry.lookup event.application with
  | .error fault => .error fault
  | .ok app =>
    match app.handle event with
    | .error fault => .error fault
    | .ok (after, effects) => .ok ((m.update after).performAll effects)

def schedule (m : ResourceManager) (id : String) : ResourceManager :=
  match m.registry.find? id with
  | none => m
  | some app =>
    let (after, effects) := app.schedule
    (m.update after).performAll effects

def scheduleAll (m : ResourceManager) : ResourceManager :=
  m.registry.ids.foldl schedule m

def deliver (m : ResourceManager) : Event → ResourceManager
  | .application event =>
    match m.handle event with
    | .ok next => next
    | .error fault => m.note [.eventFailed event.application event.kind fault]
  | .task event => { m with taskEvents := m.taskEvents ++ [event] }

/-- One step of the consumer, the handler's run included. A handler that gets a stalling event does
not return by itself. -/
def advance (stalling : Event → Bool) (m : ResourceManager) : Option ResourceManager :=
  match m.dispatcher.consumers with
  | [] => none
  | (consumer, .leaving) :: _ => some { m with dispatcher := m.dispatcher.leave consumer }
  | (consumer, _) :: _ =>
    match m.dispatcher.receive consumer with
    | none => none
    | some (.handled _ event, dispatcher) =>
      if stalling event then some { m with dispatcher }
      else
        let delivered := { m with dispatcher }.deliver event
        some { delivered with dispatcher := delivered.dispatcher.finish consumer }
    | some (.unhandled event, dispatcher) =>
      some ({ m with dispatcher }.note [.eventUnhandled event.category event.applicationId])
    | some (_, dispatcher) => some { m with dispatcher }

def advanceUpTo (stalling : Event → Bool) : Nat → ResourceManager → ResourceManager
  | 0, m => m
  | n + 1, m =>
    match m.advance stalling with
    | none => m
    | some next => advanceUpTo stalling n next

/-- Lets the consumer work until it waits for an event, is held up or is gone. An event raises at
most one other, which raises none, and the last marker is followed by the consumer's exit. -/
def drain (stalling : Event → Bool) (m : ResourceManager) : ResourceManager :=
  m.advanceUpTo stalling (2 * m.dispatcher.pending + 2)

/-- The next part of some background work, and what is left of it then. -/
def stepJob (m : ResourceManager) : Job → ResourceManager × Option Job
  | .reserve _ [] => (m, none)
  | .reserve reservation ((_, 0) :: rest) => (m, some (.reserve reservation rest))
  | .reserve reservation ((group, missing + 1) :: rest) =>
    match m.placeholders.createMember reservation group with
    | (placeholders, .ok ()) =>
      ({ m with placeholders }, some (.reserve reservation ((group, missing) :: rest)))
    | (placeholders, .error fault) =>
      ({ m with placeholders }.note [.reservationFailed reservation.application fault],
        some (.cleanUp reservation.application true))
  | .cleanUp application thenRun =>
    let (placeholders, pods) := m.placeholders.forget application
    ({ m with placeholders }, some (.delete application pods thenRun))
  | .delete application [] thenRun =>
    (if thenRun then m.dispatch (.application (.run application)) else m, none)
  | .delete application (pod :: rest) thenRun =>
    let (placeholders, notices) := m.placeholders.deletePod application pod
    ({ m with placeholders }.note notices, some (.delete application rest thenRun))
  | .beginLoop =>
    match m.loop with
    | none => (m, none)
    | some loop =>
      let (loop, passes) := loop.begin m.now
      (passes.repeat scheduleAll { m with loop }, none)

def finishCleanUp (m : ResourceManager) (application : String) (thenRun : Bool) :
    ResourceManager :=
  let (placeholders, notices) := m.placeholders.cleanUp application
  let cleaned := { m with placeholders }.note notices
  if thenRun then cleaned.dispatch (.application (.run application)) else cleaned

def runJob (m : ResourceManager) : Job → ResourceManager
  | .reserve reservation plan =>
    match PlaceholderManager.createPlan reservation plan m.placeholders with
    | (placeholders, .ok ()) => { m with placeholders }
    | (placeholders, .error fault) =>
      ({ m with placeholders }.note [.reservationFailed reservation.application fault]).finishCleanUp
        reservation.application true
  | .cleanUp application thenRun => m.finishCleanUp application thenRun
  | .delete application pods thenRun =>
    let (placeholders, notices) := PlaceholderManager.deletePods application pods m.placeholders
    let cleaned := { m with placeholders }.note notices
    if thenRun then cleaned.dispatch (.application (.run application)) else cleaned
  | .beginLoop => (m.stepJob .beginLoop).1

def pollLoop (m : ResourceManager) : ResourceManager :=
  match m.loop with
  | none => m
  | some loop =>
    let (loop, passes) := loop.poll m.now
    passes.repeat scheduleAll { m with loop }

def runBackground (m : ResourceManager) : ResourceManager :=
  (m.jobs.foldl runJob { m with jobs := [] }).pollLoop

def settleUpTo (stalling : Event → Bool) (background : Bool) :
    Nat → ResourceManager → ResourceManager
  | 0, m => m
  | n + 1, m =>
    let drained := m.drain stalling
    let next := if background then drained.runBackground else drained
    if next.dispatcher.isBusy then settleUpTo stalling background n next else next

def settle (stalling : Event → Bool) (background : Bool) (m : ResourceManager) :
    ResourceManager :=
  m.settleUpTo stalling background (2 * (m.dispatcher.pending + m.jobs.length) + 4)

def release (m : ResourceManager) : ResourceManager :=
  match m.dispatcher.handling? with
  | some consumer => { m with dispatcher := m.dispatcher.finish consumer }
  | none => m

def stop (stalling : Event → Bool) (m : ResourceManager) : ResourceManager :=
  let marked := { m with dispatcher := m.dispatcher.stop }
  let drained := marked.release.drain stalling
  if m.dispatcher.running then
    let (dispatcher, notices) := drained.dispatcher.join
    { drained with dispatcher }.note notices
  else drained

def registerHandlers (m : ResourceManager) : ResourceManager :=
  let dispatcher := m.dispatcher.register .application ()
  { m with dispatcher := if m.collectsTasks then dispatcher.register .task () else dispatcher }

def startDispatcher (m : ResourceManager) : ResourceManager :=
  match m.dispatcher.start .outside with
  | .kept dispatcher => { m with dispatcher }
  | .spawned dispatcher notices => { m with dispatcher }.note notices
  | .blocked => m

def registration (config : Config) : Registration :=
  { manager := config.clusterId
    policyGroup := config.policyGroup
    version := config.clusterVersion }

def start (stalling : Event → Bool) (m : ResourceManager) :
    ResourceManager × Except Failure Unit :=
  let started := m.registerHandlers.startDispatcher
  match started.scheduler.register (registration m.config) () with
  | .ok scheduler => ({ started with scheduler }, .ok ())
  | .error fault =>
    (started.stop stalling, .error (.within "failed to register resource manager" (.error fault)))

def respond (m : ResourceManager) (response : UpdateResponse) : Except Error ResourceManager :=
  match m.scheduler.registered with
  | .ok () => .ok (m.receive response)
  | .error fault => .error fault

def reload (m : ResourceManager) (manager : String) : Except Error ResourceManager :=
  match m.scheduler.reload manager with
  | .ok scheduler => .ok { m with scheduler }
  | .error fault => .error fault

def startLoop (m : ResourceManager) (interval : Nat) : ResourceManager :=
  { m with loop := some { interval }, jobs := m.jobs ++ [.beginLoop] }

def stopLoop (m : ResourceManager) : ResourceManager :=
  { m with loop := m.loop.map fun loop => { loop with stopping := true } }

def dropLoop (m : ResourceManager) : ResourceManager :=
  { m with loop := none }

def advanceClock (m : ResourceManager) (millis : Nat) : ResourceManager :=
  { m with now := m.now + millis }

end ResourceManager

end GangScheduling
