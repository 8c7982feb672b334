import GangScheduling.Json.Decode
import GangScheduling.TaskGroup

set_option autoImplicit false

namespace GangScheduling

open Json Json.Decoder

namespace Toleration

def fields : List (RecordField Toleration) :=
  [.put "key" string (fun t v => { t with key := v }) false,
   .put "operator" string (fun t v => { t with operator := v }) false,
   .put "value" string (fun t v => { t with value := v }) false,
   .put "effect" string (fun t v => { t with effect := v }) false,
   .put "tolerationSeconds" (optional int64) (fun t v => { t with seconds := v }) false]

def encode (t : Toleration) : Json :=
  .record ([("key", .str t.key), ("operator", .str t.operator), ("value", .str t.value),
      ("effect", .str t.effect)]
    ++ (t.seconds.map fun n => ("tolerationSeconds", Json.integer n.toInt)).toList)

def codec : Codec Toleration := { encode, decode := record fields {} }

end Toleration

namespace TaskGroup

def fields : List (RecordField TaskGroup) :=
  [.put "name" string (fun g v => { g with name := v }),
   .put "minMember" uint32 (fun g v => { g with minMember := v }),
   .put "minResource" (map quantity) (fun g v => { g with minResource := v }) false,
   .put "nodeSelector" (map string) (fun g v => { g with nodeSelector := v }) false,
   .put "tolerations" (list Toleration.codec.decode) (fun g v => { g with tolerations := v }) false]

def encode (g : TaskGroup) : Json :=
  .record [("name", .str g.name), ("minMember", .nat g.minMember.toNat),
    ("minResource", (Codec.map .quantity).encode g.minResource),
    ("nodeSelector", (Codec.map .string).encode g.nodeSelector),
    ("tolerations", Toleration.codec.list.encode g.tolerations)]

def codec : Codec TaskGroup :=
  { encode, decode := record fields { name := "", minMember := 0 } }

def annotationError : Fault → Error
  | .malformed => .config "task groups"
  | .quantity text => .config s!"task groups: {(Error.invalidQuantity text).message}"

def ofAnnotation (text : String) : Except Error (List TaskGroup) :=
  match decode codec.list.decode text with
  | .ok groups => .ok groups
  | .error fault => .error (annotationError fault)

end TaskGroup

namespace OwnerReference

def fields : List (RecordField OwnerReference) :=
  [.put "apiVersion" string (fun r v => { r with apiVersion := v }),
   .put "kind" string (fun r v => { r with kind := v }),
   .put "name" string (fun r v => { r with name := v }),
   .put "uid" string (fun r v => { r with uid := v }),
   .put "controller" bool (fun r v => { r with controller := v }) false]

def encode (r : OwnerReference) : Json :=
  .record [("apiVersion", .str r.apiVersion), ("kind", .str r.kind), ("name", .str r.name),
    ("uid", .str r.uid), ("controller", .bool r.controller)]

def codec : Codec OwnerReference :=
  { encode, decode := record fields { apiVersion := "", kind := "", name := "", uid := "" } }

end OwnerReference

namespace SchedulingPolicy

def types : Codec PolicyType := .choice PolicyType.all PolicyType.name

def fields : List (RecordField SchedulingPolicy) :=
  [.put "policy_type" (optional types.decode) (fun p v => { p with type := v }) false,
   .put "parameters" (map string) (fun p v => { p with parameters := v })]

def encode (p : SchedulingPolicy) : Json :=
  .record [("policy_type", types.optional.encode p.type),
    ("parameters", (Codec.map .string).encode p.parameters)]

def codec : Codec SchedulingPolicy := { encode, decode := record fields {} }

end SchedulingPolicy

end GangScheduling
