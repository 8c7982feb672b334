import GangScheduling.ResourceManager
import GangScheduling.Text.Quoted

set_option autoImplicit false

namespace GangScheduling

open Text

def debugRecord (name : String) (fields : List (String × String)) (isOpen : Bool := false) :
    String :=
  let shown := fields.map fun field => field.1 ++ ": " ++ field.2
  name ++ " \x7b " ++ ", ".intercalate (if isOpen then shown ++ [".."] else shown) ++ " \x7d"

def Application.debugText (app : Application) : String :=
  debugRecord "Application"
    [("id", quoted app.id), ("queue", quoted app.queue), ("state", app.state.name)] true

def Dispatcher.debugText {H : Type} (d : Dispatcher H) : String :=
  debugRecord "Dispatcher"
    [("running", toString d.running),
     ("stats", debugRecord "DispatcherStats"
       [("dispatched", toString d.dispatched), ("delivered", toString d.delivered),
        ("dropped", toString d.dropped), ("pending", toString d.pending)])]

def Config.debugText (config : Config) : String :=
  debugRecord "ShimConfig"
    [("cluster_id", quoted config.clusterId), ("cluster_version", quoted config.clusterVersion),
     ("policy_group", quoted config.policyGroup),
     ("scheduling_interval_ms", toString config.schedulingIntervalMillis),
     ("dispatch_backlog_warn", toString config.backlogThreshold),
     ("worker_threads", toString config.workerThreads)]

namespace ResourceManager

def servicesText (m : ResourceManager) : String :=
  debugRecord "ShimServices"
    [("rm_id", quoted m.config.clusterId), ("dispatcher", m.dispatcher.debugText)] true

def registryText (m : ResourceManager) : String :=
  let apps := m.registry.toList.map fun app => quoted app.id ++ ": " ++ app.debugText
  debugRecord "ApplicationRegistry"
    [("services", m.servicesText),
     ("apps", debugRecord "RwLock" [("data", "\x7b" ++ ", ".intercalate apps ++ "\x7d")])]

def debugText (m : ResourceManager) : String :=
  debugRecord "Shim"
    [("config", m.config.debugText), ("registry", m.registryText),
     ("task_event_handler", toString m.collectsTasks)]

end ResourceManager

end GangScheduling
