import GangScheduling.Lifecycle

set_option autoImplicit false

namespace GangScheduling

inductive Error
  | invalidTransition (event : EventKind) (state : ApplicationState)
  | taskNotFound (application task : String)
  | applicationNotFound (application : String)
  | malformedArguments (reason : String)
  | invalidTable (reason : String)
  | invalidQuantity (text : String)
  | scheduler (reason : String)
  | placeholder (reason : String)
  | task (reason : String)
  | config (reason : String)
deriving DecidableEq, Repr

def Error.message : Error → String
  | .invalidTransition event state =>
    s!"event {event.wireName} inappropriate in current state {state.name}"
  | .taskNotFound application id => s!"task {id} doesn't exist in application {application}"
  | .applicationNotFound application => s!"application {application} doesn't exist"
  | .malformedArguments reason => s!"malformed event arguments: {reason}"
  | .invalidTable reason => s!"invalid state machine definition: {reason}"
  | .invalidQuantity text => "invalid quantity `" ++ text ++ "`"
  | .scheduler reason => s!"scheduler api error: {reason}"
  | .placeholder reason => s!"placeholder error: {reason}"
  | .task reason => s!"task error: {reason}"
  | .config reason => s!"config invalid: {reason}"

inductive Failure
  | error (cause : Error)
  | other (cause : String)
  | within (description : String) (inner : Failure)
deriving DecidableEq, Repr

namespace Failure

def chain : Failure → List String
  | .error cause => [cause.message]
  | .other cause => [cause]
  | .within description inner => description :: inner.chain

def message (failure : Failure) : String :=
  ": ".intercalate failure.chain

def cause? : Failure → Option Error
  | .error cause => some cause
  | .other _ => none
  | .within _ inner => inner.cause?

end Failure

def TableFault.toError {S E : Type} (showState : S → String) (showEvent : E → String) :
    TableFault S E → Error
  | .noSources event => .invalidTable s!"event {showEvent event} has no source states"
  | .declaredTwice event state =>
    .invalidTable s!"event {showEvent event} declared twice from state {showState state}"

end GangScheduling
