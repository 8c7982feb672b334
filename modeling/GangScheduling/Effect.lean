import GangScheduling.Application
import GangScheduling.Notice

set_option autoImplicit false

namespace GangScheduling

/-- Background work, cut at the points where other work can come between. -/
inductive Job
  -- Creates the placeholders that a reservation is still missing.
  | reserve (reservation : Reservation) (plan : List (TaskGroup × Nat))
  | cleanUp (application : String) (thenRun : Bool)
  | delete (application : String) (pods : List Pod) (thenRun : Bool)
  -- The schedule loop begins with a pass.
  | beginLoop
deriving DecidableEq

inductive Effect
  -- Sends the application to the scheduler; a request that fails makes the application fail.
  | submit (description : AddApplication)
  | dispatch (event : Event)
  | record (event : PodEvent)
  | spawn (job : Job)
  | note (notice : Notice)
deriving DecidableEq

end GangScheduling
