import GangScheduling.Task

set_option autoImplicit false

namespace GangScheduling

inductive Severity
  | normal
  | warning
deriving DecidableEq, Repr

def Severity.name : Severity → String
  | .normal => "Normal"
  | .warning => "Warning"

structure PodEvent where
  pod : Pod
  severity : Severity
  reason : String
  message : String
deriving DecidableEq, Repr

inductive Notice
  | eventRefused (application : String)
  | eventUnhandled (category : Category) (application : String)
  | backlogHigh (pending threshold : Nat)
  | consumerPanicked
  | previousConsumerPanicked
  | submissionFailed (application : String) (error : Error)
  | submitIllegal (application : String) (error : Error)
  | failureUnreadable (application : String) (error : Error)
  | releaseUnreadable (application : String) (kind : EventKind) (error : Error)
  | terminationUnknown (application termination : String)
  | allocationNotReleased (application task : String) (error : Error)
  | askNotReleased (application task : String) (error : Error)
  | askUnknown (application task : String)
  | askNotPlaceholder (application task : String)
  | reservationFailed (application : String) (error : Error)
  | placeholderNotDeleted (application pod : String) (error : Error)
  | eventFailed (application : String) (kind : EventKind) (error : Error)
  | responseUnknown (application : String) (kind : EventKind)
  | podEvent (event : PodEvent)
deriving DecidableEq, Repr

inductive Level
  | info
  | warn
  | error
deriving DecidableEq, Repr

def Level.name : Level → String
  | .info => "INFO"
  | .warn => "WARN"
  | .error => "ERROR"

structure LogRecord where
  level : Level
  message : String
  fields : List (String × String)
deriving DecidableEq, Repr

namespace Notice

def level : Notice → Level
  | .failureUnreadable .. | .releaseUnreadable .. | .allocationNotReleased ..
  | .askNotReleased .. => .error
  | .podEvent { severity := .normal, .. } => .info
  | _ => .warn

def text : Notice → String
  | .eventRefused .. => "dispatcher not running, event dropped"
  | .eventUnhandled .. => "no handler registered, event dropped"
  | .backlogHigh .. => "dispatcher backlog is high"
  | .consumerPanicked => "dispatcher consumer panicked"
  | .previousConsumerPanicked => "previous dispatcher consumer panicked"
  | .submissionFailed .. => "failed to submit app"
  | .submitIllegal .. => "failed to handle SUBMIT app event"
  | .failureUnreadable .. | .releaseUnreadable .. => "fail to parse event arg"
  | .terminationUnknown .. => "unrecognised termination type, releasing as unknown"
  | .allocationNotReleased .. => "failed to release allocation from application"
  | .askNotReleased .. => "failed to release allocation ask from application"
  | .askUnknown .. => "task not found"
  | .askNotPlaceholder .. => "skip to release allocation ask, ask is not a placeholder"
  | .reservationFailed .. => "failed to create placeholders, moving app to running"
  | .placeholderNotDeleted .. => "failed to delete placeholder"
  | .eventFailed .. => "failed to handle application event"
  | .responseUnknown .. => "scheduler response for unknown application"
  | .podEvent event => event.message

def fields : Notice → List (String × String)
  | .eventRefused application => [("app_id", application)]
  | .eventUnhandled category application =>
    [("category", category.name), ("app_id", application)]
  | .backlogHigh pending threshold =>
    [("pending", toString pending), ("threshold", toString threshold)]
  | .consumerPanicked | .previousConsumerPanicked => []
  | .submissionFailed application error | .submitIllegal application error
  | .failureUnreadable application error | .reservationFailed application error =>
    [("app_id", application), ("error", error.message)]
  | .releaseUnreadable application kind error | .eventFailed application kind error =>
    [("app_id", application), ("event", kind.wireName), ("error", error.message)]
  | .terminationUnknown application termination =>
    [("app_id", application), ("termination", termination)]
  | .allocationNotReleased application task error | .askNotReleased application task error =>
    [("app_id", application), ("task_id", task), ("error", error.message)]
  | .askUnknown application task | .askNotPlaceholder application task =>
    [("app_id", application), ("task_id", task)]
  | .placeholderNotDeleted application pod error =>
    [("app_id", application), ("pod", pod), ("error", error.message)]
  | .responseUnknown application kind => [("app_id", application), ("event", kind.wireName)]
  | .podEvent event => [("pod", event.pod.alias), ("reason", event.reason)]

def record (notice : Notice) : LogRecord :=
  { level := notice.level, message := notice.text, fields := notice.fields }

end Notice

end GangScheduling
