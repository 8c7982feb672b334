import GangScheduling.Scheduler

set_option autoImplicit false

namespace GangScheduling

structure Listener where
  name : String
  failure : Option String := none
deriving DecidableEq, Repr

structure Audience where
  scheduler : Scheduler Nat := {}
  listeners : List Listener := []
  heard : List (String × UpdateResponse) := []

namespace Audience

def tell (audience : Audience) (receiver : Nat) (response : UpdateResponse) :
    Audience × Except Error Unit :=
  match audience.listeners[receiver]? with
  | none => (audience, .ok ())
  | some listener =>
    ({ audience with heard := audience.heard ++ [(listener.name, response)] },
      match listener.failure with
      | none => .ok ()
      | some reason => .error (.task reason))

def update (audience : Audience) (request : UpdateRequest) : Audience × Except Error Unit :=
  match audience.scheduler.update request with
  | .error fault => (audience, .error fault)
  | .ok (scheduler, none) => ({ audience with scheduler }, .ok ())
  | .ok (scheduler, some (receiver, response)) => { audience with scheduler }.tell receiver response

def register (audience : Audience) (registration : Registration) : Audience × Except Error Unit :=
  -- A new listener is there even if its registration is refused.
  let listeners := audience.listeners ++ [{ name := registration.manager }]
  match audience.scheduler.register registration audience.listeners.length with
  | .error fault => ({ audience with listeners }, .error fault)
  | .ok scheduler => ({ audience with scheduler, listeners }, .ok ())

def reload (audience : Audience) (manager : String) : Audience × Except Error Unit :=
  match audience.scheduler.reload manager with
  | .error fault => (audience, .error fault)
  | .ok scheduler => ({ audience with scheduler }, .ok ())

def respond (audience : Audience) (response : UpdateResponse) : Audience × Except Error Unit :=
  match audience.scheduler.registered with
  | .error fault => (audience, .error fault)
  | .ok receiver => audience.tell receiver response

def setFailure (audience : Audience) (failure : Option String) : Audience :=
  { audience with listeners := audience.listeners.map fun listener => { listener with failure } }

end Audience

end GangScheduling
