import GangScheduling.Effect

set_option autoImplicit false

namespace GangScheduling

namespace Application

def enter (app : Application) : ApplicationState → List Effect
  | .reserving => [.spawn (.reserve app.reservation app.reservation.plan)]
  | _ => []

def failureEvents (app : Application) (reason : String) : List PodEvent :=
  (app.tasks.toList.filter (·.state.isUnallocated)).map fun task =>
    { pod := task.pod
      severity := .warning
      reason := "ApplicationFailed"
      message := s!"Application {app.id} scheduling failed, reason: {reason}" }

def onFail (app : Application) (event : ApplicationEvent) : List Effect :=
  .spawn (.cleanUp app.id false) ::
    match event.arguments with
    | [reason] => (app.failureEvents reason).map .record
    | _ => [.note (.failureUnreadable app.id (event.wrongCount 1))]

def releaseArguments (event : ApplicationEvent) :
    Option (String × TerminationType) × List Notice :=
  match event.arguments with
  | [target, text] =>
    (some (target, .ofWireName text),
      if TerminationType.ofWireName? text = none then
        [.terminationUnknown event.application text]
      else [])
  | _ => (none, [.releaseUnreadable event.application event.kind (event.wrongCount 2)])

def holds (allocation : String) (task : Task) : Bool :=
  task.allocation = some allocation

def onReleaseAllocation (app : Application) (event : ApplicationEvent) :
    Application × List Effect :=
  match releaseArguments event with
  | (none, notices) => (app, notices.map .note)
  | (some (allocation, termination), notices) =>
    let failures := (app.tasks.toList.filter (holds allocation)).filterMap fun task =>
      task.deletionError?.map (.allocationNotReleased app.id task.id)
    (app.modifyTasks fun task =>
        if holds allocation task then (task.release termination).requestDeletion else task,
      (notices ++ failures).map .note)

def onReleaseAllocationAsk (app : Application) (event : ApplicationEvent) :
    Application × List Effect :=
  match releaseArguments event with
  | (none, notices) => (app, notices.map .note)
  | (some (id, termination), notices) =>
    match app.tasks.find? id with
    | none => (app, (notices ++ [Notice.askUnknown app.id id]).map .note)
    | some found =>
      let outcome : List Notice :=
        if found.placeholder then (found.deletionError?.map (.askNotReleased app.id id)).toList
        else [.askNotPlaceholder app.id id]
      (app.modifyTasks fun task =>
          if task.id = id then
            if task.placeholder then (task.release termination).requestDeletion
            else task.release termination
          else task,
        (notices ++ outcome).map .note)

def respond (app : Application) (event : ApplicationEvent) : Application × List Effect :=
  match event.kind with
  | .submit => (app, [.submit (app.description app.ask)])
  | .recover => (app, [.submit (app.description none)])
  | .reject => (app, [.dispatch (.application
      (.fail app.id s!"application {app.id} is rejected by scheduler"))])
  | .complete => (app, [.spawn (.cleanUp app.id false)])
  | .fail => (app, app.onFail event)
  | .updateReservation =>
    (app, if Gang.reservationComplete app.groups app.tasks.toList then
        [.dispatch (.application (.run app.id))]
      else [])
  | .releaseAllocation => app.onReleaseAllocation event
  | .releaseAllocationAsk => app.onReleaseAllocationAsk event
  | _ => (app, [])

def canHandle (app : Application) (kind : EventKind) : Bool :=
  (Lifecycle.next app.state kind).isSome

def handle (app : Application) (event : ApplicationEvent) :
    Except Error (Application × List Effect) :=
  match Lifecycle.next app.state event.kind with
  | none => .error (.invalidTransition event.kind app.state)
  | some next =>
    let moved := { app with state := next }
    -- An event that keeps the state does not enter it again.
    let entered := if next = app.state then [] else moved.enter next
    let (after, effects) := moved.respond event
    .ok (after, entered ++ effects)

def recover (app : Application) : Except Error (Application × List Effect) :=
  app.handle { application := app.id, kind := .recover }

end Application

end GangScheduling
