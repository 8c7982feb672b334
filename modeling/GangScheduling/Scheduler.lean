import GangScheduling.Resource

set_option autoImplicit false

namespace GangScheduling

structure AddApplication where
  application : String
  queue : String
  partition : String
  user : String
  tags : NameMap String
  ask : Option Resource
  timeoutMillis : Int64
deriving DecidableEq

structure UpdateRequest where
  applications : List AddApplication
  manager : String
deriving DecidableEq

structure Registration where
  manager : String
  policyGroup : String
  version : String
deriving DecidableEq, Repr

structure Rejection where
  application : String
  reason : String
deriving DecidableEq, Repr

structure UpdateResponse where
  accepted : List String := []
  rejected : List Rejection := []
deriving DecidableEq, Repr

structure Scheduler (R : Type) where
  acceptsAll : Bool := false
  failure : Option String := none
  receiver : Option R := none
  updates : List UpdateRequest := []
  registrations : List Registration := []
  reloads : List String := []

namespace Scheduler

variable {R : Type}

def available (scheduler : Scheduler R) : Except Error Unit :=
  match scheduler.failure with
  | none => .ok ()
  | some reason => .error (.scheduler reason)

/-- A scheduler that accepts everything answers at once, if there is something to accept and
someone to tell. -/
def answer (scheduler : Scheduler R) (request : UpdateRequest) : Option (R × UpdateResponse) :=
  if scheduler.acceptsAll ∧ request.applications ≠ [] then
    scheduler.receiver.map fun receiver =>
      (receiver, { accepted := request.applications.map (·.application) })
  else none

def update (scheduler : Scheduler R) (request : UpdateRequest) :
    Except Error (Scheduler R × Option (R × UpdateResponse)) :=
  match scheduler.available with
  | .error fault => .error fault
  | .ok () =>
    .ok ({ scheduler with updates := scheduler.updates ++ [request] }, scheduler.answer request)

def register (scheduler : Scheduler R) (registration : Registration) (receiver : R) :
    Except Error (Scheduler R) :=
  match scheduler.available with
  | .error fault => .error fault
  | .ok () => .ok { scheduler with
      registrations := scheduler.registrations ++ [registration]
      receiver := some receiver }

def reload (scheduler : Scheduler R) (manager : String) : Except Error (Scheduler R) :=
  match scheduler.available with
  | .error fault => .error fault
  | .ok () => .ok { scheduler with reloads := scheduler.reloads ++ [manager] }

def registered (scheduler : Scheduler R) : Except Error R :=
  match scheduler.receiver with
  | some receiver => .ok receiver
  | none => .error (.scheduler "no resource manager registered")

end Scheduler

end GangScheduling
