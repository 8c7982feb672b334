import GangScheduling.Error
import GangScheduling.Text.Blank
import GangScheduling.Text.Decimal

set_option autoImplicit false

namespace GangScheduling

structure Config where
  clusterId : String := "mycluster"
  clusterVersion : String := "0.1.0"
  policyGroup : String := "queues"
  schedulingIntervalMillis : UInt64 := 1000
  backlogThreshold : UInt64 := 10000
  workerThreads : UInt64
deriving DecidableEq, Repr

namespace Config

def isBlank (text : String) : Bool :=
  (Text.trim text.toList).isEmpty

def validate (config : Config) : Except Error Unit :=
  if isBlank config.clusterId then .error (.config "cluster_id must not be empty")
  else if isBlank config.policyGroup then .error (.config "policy_group must not be empty")
  else if config.schedulingIntervalMillis = 0 then
    .error (.config "scheduling_interval_ms must be greater than 0")
  else if config.backlogThreshold = 0 then
    .error (.config "dispatch_backlog_warn must be greater than 0")
  else if config.workerThreads = 0 then .error (.config "worker_threads must be greater than 0")
  else .ok ()

def variablePrefix : String := "SHIM_"

def readNumber (name value : String) : Except Failure UInt64 :=
  match Text.readNatural (UInt64.size - 1) value.toList with
  | .ok n => .ok (UInt64.ofNat n)
  | .error fault => .error (.within s!"{name}={value} is not a number" (.other fault.message))

def setVariable (config : Config) (name value : String) : Except Failure Config :=
  if name = variablePrefix ++ "CLUSTER_ID" then .ok { config with clusterId := value }
  else if name = variablePrefix ++ "CLUSTER_VERSION" then
    .ok { config with clusterVersion := value }
  else if name = variablePrefix ++ "POLICY_GROUP" then .ok { config with policyGroup := value }
  else if name = variablePrefix ++ "SCHEDULING_INTERVAL_MS" then
    (readNumber name value).map fun n => { config with schedulingIntervalMillis := n }
  else if name = variablePrefix ++ "DISPATCH_BACKLOG_WARN" then
    (readNumber name value).map fun n => { config with backlogThreshold := n }
  else if name = variablePrefix ++ "WORKER_THREADS" then
    (readNumber name value).map fun n => { config with workerThreads := n }
  else .ok config

def setVariables : Config → List (String × String) → Except Failure Config
  | config, [] => .ok config
  | config, (name, value) :: rest =>
    match config.setVariable name value with
    | .error failure => .error failure
    | .ok next => setVariables next rest

def validated (config : Config) : Except Failure Config :=
  match config.validate with
  | .ok () => .ok config
  | .error fault => .error (.within "invalid shim configuration" (.error fault))

/-- A later variable overrides an earlier one of its name. The first number that cannot be read is
reported before anything else. -/
def ofVariables (defaults : Config) (given : List (String × String)) :
    Except Failure Config :=
  match setVariables defaults given with
  | .error failure => .error failure
  | .ok config => config.validated

end Config

end GangScheduling
