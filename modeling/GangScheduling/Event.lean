import GangScheduling.Error

set_option autoImplicit false

namespace GangScheduling

inductive TerminationType
  | stopByManager
  | timeout
  | preempted
  | placeholderReplaced
  | unknown
deriving DecidableEq, Repr

namespace TerminationType

def all : List TerminationType :=
  [.stopByManager, .timeout, .preempted, .placeholderReplaced, .unknown]

def wireName : TerminationType → String
  | .stopByManager => "STOP_BY_RM"
  | .timeout => "TIMEOUT"
  | .preempted => "PREEMPTED_BY_SCHEDULER"
  | .placeholderReplaced => "PLACEHOLDER_REPLACED"
  | .unknown => "UNKNOWN_TERMINATION_TYPE"

def name : TerminationType → String
  | .stopByManager => "StopByRm"
  | .timeout => "Timeout"
  | .preempted => "PreemptedByScheduler"
  | .placeholderReplaced => "PlaceholderReplaced"
  | .unknown => "Unknown"

def ofWireName? (text : String) : Option TerminationType :=
  all.find? fun termination => termination.wireName = text

def parse (text : String) : Except Error TerminationType :=
  match ofWireName? text with
  | some termination => .ok termination
  | none => .error (.malformedArguments s!"unknown termination type {text}")

def ofWireName (text : String) : TerminationType :=
  (ofWireName? text).getD .unknown

theorem ofWireName?_wireName (termination : TerminationType) :
    ofWireName? termination.wireName = some termination := by
  cases termination <;> decide

theorem wireName_of_ofWireName? {text : String} {termination : TerminationType}
    (h : ofWireName? text = some termination) : termination.wireName = text := by
  simpa using List.find?_some h

end TerminationType

structure ApplicationEvent where
  application : String
  kind : EventKind
  arguments : List String := []
deriving DecidableEq, Repr

namespace ApplicationEvent

def submit (application : String) : ApplicationEvent :=
  { application, kind := .submit }

def run (application : String) : ApplicationEvent :=
  { application, kind := .run }

def fail (application reason : String) : ApplicationEvent :=
  { application, kind := .fail, arguments := [reason] }

def releaseAllocation (application : String) (termination : TerminationType)
    (allocation : String) : ApplicationEvent :=
  { application, kind := .releaseAllocation, arguments := [allocation, termination.wireName] }

def releaseAllocationAsk (application task : String) (termination : TerminationType) :
    ApplicationEvent :=
  { application, kind := .releaseAllocationAsk, arguments := [task, termination.wireName] }

def wrongCount (event : ApplicationEvent) (expected : Nat) : Error :=
  .malformedArguments
    s!"{event.kind.wireName} expects {expected} argument(s), got {event.arguments.length}"

def exactly (event : ApplicationEvent) (expected : Nat) : Except Error (List String) :=
  if event.arguments.length = expected then .ok event.arguments
  else .error (event.wrongCount expected)

def display (event : ApplicationEvent) : String :=
  s!"{event.kind.wireName}({event.application})"

end ApplicationEvent

structure TaskEvent where
  application : String
  task : String
deriving DecidableEq, Repr

def TaskEvent.kindName : String := "InitTask"

inductive Category
  | application
  | task
deriving DecidableEq, Repr

def Category.name : Category → String
  | .application => "App"
  | .task => "Task"

inductive Event
  | application (event : ApplicationEvent)
  | task (event : TaskEvent)
deriving DecidableEq, Repr

namespace Event

def category : Event → Category
  | .application _ => .application
  | .task _ => .task

def applicationId : Event → String
  | .application event => event.application
  | .task event => event.application

end Event

end GangScheduling
