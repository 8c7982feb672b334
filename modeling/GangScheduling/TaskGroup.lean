import GangScheduling.Resource

set_option autoImplicit false

namespace GangScheduling

structure Toleration where
  key : String := ""
  operator : String := ""
  value : String := ""
  effect : String := ""
  seconds : Option Int64 := none
deriving DecidableEq

structure TaskGroup where
  name : String
  minMember : UInt32
  minResource : NameMap Quantity := .empty
  nodeSelector : NameMap String := .empty
  tolerations : List Toleration := []
deriving DecidableEq

namespace TaskGroup

def withMinResource (group : TaskGroup) (name quantity : String) : Except Error TaskGroup :=
  match Quantity.parse quantity with
  | .ok parsed => .ok { group with minResource := group.minResource.insert name parsed }
  | .error fault => .error fault

def ask (group : TaskGroup) : Resource :=
  .ofMembers group.minResource group.minMember

end TaskGroup

structure OwnerReference where
  apiVersion : String
  kind : String
  name : String
  uid : String
  controller : Bool := false
deriving DecidableEq

inductive PolicyType
  | tryOnce
  | maxRetry
  | backoff
  | tryReserve
  | tryPreempt
deriving DecidableEq, Repr

namespace PolicyType

def all : List PolicyType := [.tryOnce, .maxRetry, .backoff, .tryReserve, .tryPreempt]

def name : PolicyType → String
  | .tryOnce => "TryOnce"
  | .maxRetry => "MaxRetry"
  | .backoff => "Backoff"
  | .tryReserve => "TryReserve"
  | .tryPreempt => "TryPreempt"

end PolicyType

structure SchedulingPolicy where
  type : Option PolicyType := none
  parameters : NameMap String := .empty
deriving DecidableEq

end GangScheduling
