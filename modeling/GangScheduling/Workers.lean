import GangScheduling.ResourceManager.Debug

set_option autoImplicit false

namespace GangScheduling

structure Workers where
  -- The threads live as long as this value.
  own : Bool
deriving DecidableEq, Repr

namespace Workers

def debugText (workers : Workers) : String :=
  debugRecord "TokioSpawner" [("owns_runtime", toString workers.own)]

end Workers

end GangScheduling
