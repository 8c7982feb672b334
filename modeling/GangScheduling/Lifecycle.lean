import GangScheduling.TransitionTable

set_option autoImplicit false

namespace GangScheduling

inductive ApplicationState
  | new
  | submitted
  | recovering
  | accepted
  | reserving
  | running
  | completed
  | rejected
  | failed
  | killing
  | killed
deriving DecidableEq, Repr, Inhabited

namespace ApplicationState

def all : List ApplicationState :=
  [.new, .submitted, .recovering, .accepted, .reserving, .running, .completed, .rejected, .failed,
   .killing, .killed]

def name : ApplicationState → String
  | .new => "New"
  | .submitted => "Submitted"
  | .recovering => "Recovering"
  | .accepted => "Accepted"
  | .reserving => "Reserving"
  | .running => "Running"
  | .completed => "Completed"
  | .rejected => "Rejected"
  | .failed => "Failed"
  | .killing => "Killing"
  | .killed => "Killed"

def isTerminal : ApplicationState → Bool
  | .completed | .rejected | .failed | .killed => true
  | _ => false

end ApplicationState

inductive EventKind
  | submit
  | recover
  | accept
  | tryReserve
  | updateReservation
  | run
  | releaseAllocation
  | releaseAllocationAsk
  | complete
  | reject
  | fail
  | kill
  | killed
deriving DecidableEq, Repr, Inhabited

namespace EventKind

def all : List EventKind :=
  [.submit, .recover, .accept, .tryReserve, .updateReservation, .run, .releaseAllocation,
   .releaseAllocationAsk, .complete, .reject, .fail, .kill, .killed]

def wireName : EventKind → String
  | .submit => "SubmitApplication"
  | .recover => "RecoverApplication"
  | .accept => "AcceptApplication"
  | .tryReserve => "TryReserve"
  | .updateReservation => "UpdateReservation"
  | .run => "RunApplication"
  | .releaseAllocation => "ReleaseAppAllocation"
  | .releaseAllocationAsk => "ReleaseAppAllocationAsk"
  | .complete => "CompleteApplication"
  | .reject => "RejectApplication"
  | .fail => "FailApplication"
  | .kill => "KillApplication"
  | .killed => "KilledApplication"

def name : EventKind → String
  | .submit => "Submit"
  | .recover => "Recover"
  | .accept => "Accept"
  | .tryReserve => "TryReserve"
  | .updateReservation => "UpdateReservation"
  | .run => "Run"
  | .releaseAllocation => "ReleaseAllocation"
  | .releaseAllocationAsk => "ReleaseAllocationAsk"
  | .complete => "Complete"
  | .reject => "Reject"
  | .fail => "Fail"
  | .kill => "Kill"
  | .killed => "Killed"

end EventKind

namespace Lifecycle

def rules : List (TransitionRule ApplicationState EventKind) :=
  [{ event := .submit, sources := [.new], destination := .submitted },
   { event := .recover, sources := [.new], destination := .recovering },
   { event := .accept, sources := [.submitted, .recovering], destination := .accepted },
   { event := .tryReserve, sources := [.accepted], destination := .reserving },
   { event := .updateReservation, sources := [.reserving], destination := .reserving },
   { event := .run, sources := [.accepted, .reserving, .running], destination := .running },
   { event := .releaseAllocation, sources := [.running], destination := .running },
   { event := .releaseAllocation, sources := [.failed], destination := .failed },
   { event := .releaseAllocationAsk, sources := [.running, .accepted, .reserving],
     destination := .running },
   { event := .releaseAllocationAsk, sources := [.failed], destination := .failed },
   { event := .complete, sources := [.running], destination := .completed },
   { event := .reject, sources := [.submitted], destination := .rejected },
   { event := .fail, sources := [.submitted, .rejected, .accepted, .running, .reserving],
     destination := .failed },
   { event := .kill, sources := [.accepted, .running, .reserving], destination := .killing },
   { event := .killed, sources := [.killing], destination := .killed }]

theorem rules_accepted : (TransitionTable.ofRules rules).toOption.isSome = true := by
  decide

def table : TransitionTable ApplicationState EventKind :=
  (TransitionTable.ofRules rules).toOption.get rules_accepted

def next (state : ApplicationState) (kind : EventKind) : Option ApplicationState :=
  table.destination state kind

end Lifecycle

end GangScheduling
