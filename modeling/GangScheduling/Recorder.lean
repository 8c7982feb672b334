import GangScheduling.Notice

set_option autoImplicit false

namespace GangScheduling

structure EventMemory where
  capacity : Nat := 10000
  events : List PodEvent := []
deriving DecidableEq, Repr

namespace EventMemory

def record (memory : EventMemory) (event : PodEvent) : EventMemory :=
  if memory.capacity = 0 then memory
  else if memory.capacity ≤ memory.events.length then
    { memory with events := memory.events.drop 1 ++ [event] }
  else { memory with events := memory.events ++ [event] }

def recordAll (memory : EventMemory) (events : List PodEvent) : EventMemory :=
  events.foldl record memory

end EventMemory

inductive Recorder
  | memory (events : EventMemory)
  | log
deriving DecidableEq, Repr

namespace Recorder

def record (recorder : Recorder) (event : PodEvent) : Recorder × List Notice :=
  match recorder with
  | .memory events => (.memory (events.record event), [])
  | .log => (.log, [.podEvent event])

def recordAll (recorder : Recorder) : List PodEvent → Recorder × List Notice
  | [] => (recorder, [])
  | event :: rest =>
    let (next, notices) := recorder.record event
    let (last, more) := next.recordAll rest
    (last, notices ++ more)

def events (recorder : Recorder) : List PodEvent :=
  match recorder with
  | .memory events => events.events
  | .log => []

def withReason (recorder : Recorder) (reason : String) : List PodEvent :=
  recorder.events.filter fun event => event.reason = reason

end Recorder

end GangScheduling
