import GangScheduling.Config
import GangScheduling.Json.Decode

set_option autoImplicit false

namespace GangScheduling

open Json Json.Decoder

namespace Config

def fields : List (RecordField Config) :=
  [.put "cluster_id" string (fun c v => { c with clusterId := v }) false,
   .put "cluster_version" string (fun c v => { c with clusterVersion := v }) false,
   .put "policy_group" string (fun c v => { c with policyGroup := v }) false,
   .put "scheduling_interval_ms" uint64
      (fun c v => { c with schedulingIntervalMillis := v }) false,
   .put "dispatch_backlog_warn" uint64 (fun c v => { c with backlogThreshold := v }) false,
   .put "worker_threads" uint64 (fun c v => { c with workerThreads := v }) false]

def encode (c : Config) : Json :=
  .record [("cluster_id", .str c.clusterId), ("cluster_version", .str c.clusterVersion),
    ("policy_group", .str c.policyGroup),
    ("scheduling_interval_ms", .nat c.schedulingIntervalMillis.toNat),
    ("dispatch_backlog_warn", .nat c.backlogThreshold.toNat),
    ("worker_threads", .nat c.workerThreads.toNat)]

def codec (defaults : Config) : Codec Config :=
  { encode, decode := record fields defaults }

def ofJson (defaults : Config) (text : String) : Except Error Config :=
  match Json.decode (codec defaults).decode text with
  | .error _ => .error (.config "parse error")
  | .ok config =>
    match config.validate with
    | .ok () => .ok config
    | .error fault => .error fault

end Config

end GangScheduling
