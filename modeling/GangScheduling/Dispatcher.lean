import GangScheduling.Notice

set_option autoImplicit false

namespace GangScheduling

inductive Entry
  | event (event : Event)
  | stop
deriving DecidableEq, Repr

/-- What a live consumer does: it waits for an entry, runs a handler, or has read a marker and is
about to exit. -/
inductive Activity
  | waiting
  | handling
  | leaving
deriving DecidableEq, Repr

structure Dispatcher (H : Type) where
  running : Bool := false
  -- The live consumers with their numbers.
  consumers : List (Nat × Activity) := []
  -- The consumer that a start waits for.
  current : Option Nat := none
  -- How many consumers there were so far.
  spawned : Nat := 0
  queue : List Entry := []
  handlers : List (Category × H) := []
  threshold : Nat := 10000
  warned : Bool := false
  dispatched : Nat := 0
  delivered : Nat := 0
  dropped : Nat := 0
  -- The latest consumer was not waited for yet.
  unjoined : Bool := false
  -- The latest consumer died in a handler.
  crashed : Bool := false

namespace Dispatcher

variable {H : Type}

def pending (d : Dispatcher H) : Nat :=
  d.queue.length

def handler? (d : Dispatcher H) (category : Category) : Option H :=
  d.handlers.lookup category

def register (d : Dispatcher H) (category : Category) (handler : H) : Dispatcher H :=
  { d with handlers := (category, handler) :: d.handlers.filter fun held => held.1 ≠ category }

/-- Warns when the queue has grown above the threshold, once until it is at or below it again. -/
def checkBacklog (d : Dispatcher H) : Dispatcher H × List Notice :=
  if d.threshold < d.pending then
    ({ d with warned := true },
      if d.warned then [] else [.backlogHigh d.pending d.threshold])
  else ({ d with warned := false }, [])

def enqueue (d : Dispatcher H) (event : Event) : Dispatcher H :=
  { d with queue := d.queue ++ [.event event], dispatched := d.dispatched + 1 }

def dispatch (d : Dispatcher H) (event : Event) : Dispatcher H × List Notice :=
  if d.running then (d.enqueue event).checkBacklog
  else ({ d with dropped := d.dropped + 1 }, [.eventRefused event.applicationId])

def dispatchAll (d : Dispatcher H) : List Event → Dispatcher H × List Notice
  | [] => (d, [])
  | event :: rest =>
    let (next, notices) := d.dispatch event
    let (last, more) := dispatchAll next rest
    (last, notices ++ more)

def stop (d : Dispatcher H) : Dispatcher H :=
  if d.running then { d with running := false, queue := d.queue ++ [.stop] } else d

def join (d : Dispatcher H) : Dispatcher H × List Notice :=
  ({ d with unjoined := false },
    if d.unjoined ∧ d.crashed then [.consumerPanicked] else [])

def activity? (d : Dispatcher H) (consumer : Nat) : Option Activity :=
  d.consumers.lookup consumer

def turn (d : Dispatcher H) (consumer : Nat) (activity : Activity) : Dispatcher H :=
  { d with consumers := d.consumers.map fun entry =>
      if entry.1 = consumer then (consumer, activity) else entry }

def leave (d : Dispatcher H) (consumer : Nat) : Dispatcher H :=
  { d with
    consumers := d.consumers.filter fun entry => entry.1 ≠ consumer
    current := if d.current = some consumer then none else d.current }

def panic (d : Dispatcher H) (consumer : Nat) : Dispatcher H :=
  { d.leave consumer with crashed := true }

def finish (d : Dispatcher H) (consumer : Nat) : Dispatcher H :=
  d.turn consumer .waiting

def spawn (d : Dispatcher H) : Dispatcher H × List Notice :=
  ({ d with
      running := true
      consumers := d.consumers ++ [(d.spawned, .waiting)]
      current := some d.spawned
      spawned := d.spawned + 1
      unjoined := true
      crashed := false },
    if d.unjoined ∧ d.crashed then [.previousConsumerPanicked] else [])

inductive Caller
  | outside
  | consumer (number : Nat)
deriving DecidableEq, Repr

inductive Starting (H : Type)
  -- No consumer has to be brought.
  | kept (d : Dispatcher H)
  | spawned (d : Dispatcher H) (notices : List Notice)
  -- An earlier consumer has to go first.
  | blocked

/-- A handler of the current consumer lets it go on; anyone else brings a new consumer. -/
def start (d : Dispatcher H) (caller : Caller) : Starting H :=
  if d.running then .kept d
  else match d.current with
    | none => .spawned d.spawn.1 d.spawn.2
    | some number => if caller = .consumer number then .kept { d with running := true } else .blocked

inductive Received (H : Type)
  | handled (handler : H) (event : Event)
  | unhandled (event : Event)
  | staleMarker
  | finalMarker

def receive (d : Dispatcher H) (consumer : Nat) : Option (Received H × Dispatcher H) :=
  match d.activity? consumer, d.queue with
  | some .waiting, .event event :: rest =>
    match d.handler? event.category with
    | some handler =>
      some (.handled handler event,
        { d.turn consumer .handling with queue := rest, delivered := d.delivered + 1 })
    | none => some (.unhandled event, { d with queue := rest, dropped := d.dropped + 1 })
  | some .waiting, .stop :: rest =>
    if d.running then some (.staleMarker, { d with queue := rest })
    else some (.finalMarker, { d.turn consumer .leaving with queue := rest })
  | _, _ => none

def handling? (d : Dispatcher H) : Option Nat :=
  (d.consumers.find? fun entry => entry.2 = .handling).map (·.1)

def isBusy (d : Dispatcher H) : Bool :=
  !d.queue.isEmpty && d.consumers.any fun entry => entry.2 = .waiting

inductive Move (H : Type)
  | register (category : Category) (handler : H)
  | dispatch (caller : Caller) (event : Event)
  | start (caller : Caller) (threadAvailable : Bool)
  | stop (caller : Caller)
  | receive (consumer : Nat)
  | finish (consumer : Nat)
  | panic (consumer : Nat)
  | exit (consumer : Nat)
deriving Repr

def present (d : Dispatcher H) : Caller → Bool
  | .outside => true
  | .consumer number => d.activity? number = some .handling

def step (d : Dispatcher H) : Move H → Option (Dispatcher H)
  | .register category handler => some (d.register category handler)
  | .dispatch caller event => if d.present caller then some (d.dispatch event).1 else none
  | .start caller threadAvailable =>
    if d.present caller then
      match d.start caller with
      | .kept next => some next
      | .spawned next _ => some (if threadAvailable then next else d)
      | .blocked => none
    else none
  | .stop caller => if d.present caller then some d.stop else none
  | .receive consumer => (d.receive consumer).map (·.2)
  | .finish consumer =>
    if d.activity? consumer = some .handling then some (d.finish consumer) else none
  | .panic consumer =>
    if d.activity? consumer = some .handling then some (d.panic consumer) else none
  | .exit consumer =>
    if d.activity? consumer = some .leaving then some (d.leave consumer) else none

def run : Dispatcher H → List (Move H) → Option (Dispatcher H)
  | d, [] => some d
  | d, move :: rest =>
    match d.step move with
    | none => none
    | some next => run next rest

end Dispatcher

end GangScheduling
