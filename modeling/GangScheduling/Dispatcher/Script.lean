import GangScheduling.Dispatcher

set_option autoImplicit false

namespace GangScheduling

namespace Dispatcher

inductive Action
  | dispatch (events : List Event)
  | register (category : Category) (label : String)
  | start
  | stop
  | panic
deriving Repr

def Action.weight : Action → Nat
  | .dispatch events => events.length
  | .stop => 1
  | _ => 0

structure Handled where
  label : String
  event : Event
deriving DecidableEq, Repr

structure Scripted where
  dispatcher : Dispatcher String
  -- For each application the actions of its next deliveries.
  scripts : List (String × List (List Action)) := []
  -- A handler that gets an event of this application does not return by itself.
  blocking : String := "hold"
  log : List Handled := []
  notices : List Notice := []

namespace Scripted

def note (s : Scripted) (result : Dispatcher String × List Notice) : Scripted :=
  { s with dispatcher := result.1, notices := s.notices ++ result.2 }

def start (s : Scripted) (caller : Caller) : Scripted :=
  match s.dispatcher.start caller with
  | .kept next => s.note (next, [])
  | .spawned next notices => s.note (next, notices)
  | .blocked => s

inductive Ending
  | returned
  | panicked
deriving DecidableEq, Repr

def act (caller : Caller) : Scripted → List Action → Scripted × Ending
  | s, [] => (s, .returned)
  | s, .dispatch events :: rest => act caller (s.note (s.dispatcher.dispatchAll events)) rest
  | s, .register category label :: rest =>
    act caller { s with dispatcher := s.dispatcher.register category label } rest
  | s, .start :: rest => act caller (s.start caller) rest
  | s, .stop :: rest => act caller { s with dispatcher := s.dispatcher.stop } rest
  | s, .panic :: _ => (s, .panicked)

def takeScript (application : String) :
    List (String × List (List Action)) → List Action × List (String × List (List Action))
  | [] => ([], [])
  | (name, runs) :: rest =>
    if name = application then
      match runs with
      | [] => ([], (name, []) :: rest)
      | actions :: later => (actions, (name, later) :: rest)
    else
      let (actions, others) := takeScript application rest
      (actions, (name, runs) :: others)

def handle (s : Scripted) (consumer : Nat) (label : String) (event : Event) : Scripted :=
  let logged := { s with log := s.log ++ [Handled.mk label event] }
  let (actions, scripts) := takeScript event.applicationId s.scripts
  let (acted, ending) := act (.consumer consumer) { logged with scripts } actions
  match ending with
  | .panicked => { acted with dispatcher := acted.dispatcher.panic consumer }
  | .returned =>
    if event.applicationId = s.blocking then acted
    else { acted with dispatcher := acted.dispatcher.finish consumer }

def advance (s : Scripted) : Option Scripted :=
  match s.dispatcher.consumers with
  | [] => none
  | (consumer, .leaving) :: _ => some { s with dispatcher := s.dispatcher.leave consumer }
  | (consumer, _) :: _ =>
    match s.dispatcher.receive consumer with
    | none => none
    | some (.handled label event, next) =>
      some ({ s with dispatcher := next }.handle consumer label event)
    | some (.unhandled event, next) =>
      some (s.note (next, [.eventUnhandled event.category event.applicationId]))
    | some (_, next) => some { s with dispatcher := next }

def remaining (s : Scripted) : Nat :=
  (s.scripts.flatMap fun script => script.2.flatten).foldl (fun n action => n + action.weight) 0

/-- Every entry is received once, and the last marker is followed by the consumer's exit. -/
def bound (s : Scripted) : Nat :=
  s.dispatcher.pending + s.remaining + 2

def advanceUpTo : Nat → Scripted → Scripted
  | 0, s => s
  | n + 1, s =>
    match s.advance with
    | none => s
    | some next => advanceUpTo n next

def settle (s : Scripted) : Scripted :=
  advanceUpTo s.bound s

def release (s : Scripted) : Scripted :=
  match s.dispatcher.handling? with
  | some consumer => { s with dispatcher := s.dispatcher.finish consumer }
  | none => s

def stop (s : Scripted) : Scripted :=
  let marked := { s with dispatcher := s.dispatcher.stop }
  let drained := marked.release.settle
  if s.dispatcher.running then drained.note drained.dispatcher.join else drained

end Scripted

end Dispatcher

end GangScheduling
