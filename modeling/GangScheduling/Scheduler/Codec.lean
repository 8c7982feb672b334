import GangScheduling.Json.Decode
import GangScheduling.Scheduler

set_option autoImplicit false

namespace GangScheduling

open Json Json.Decoder

namespace Resource

def fields : List (RecordField Resource) :=
  [.put "resources" (map int64) (fun r v => { r with amounts := v })]

def encode (r : Resource) : Json :=
  .record [("resources", (Codec.map .int64).encode r.amounts)]

def codec : Codec Resource := { encode, decode := record fields .empty }

end Resource

namespace AddApplication

def fields : List (RecordField AddApplication) :=
  [.put "application_id" string (fun a v => { a with application := v }),
   .put "queue_name" string (fun a v => { a with queue := v }),
   .put "partition_name" string (fun a v => { a with partition := v }),
   .put "user" string (fun a v => { a with user := v }),
   .put "tags" (map string) (fun a v => { a with tags := v }),
   .put "placeholder_ask" (optional Resource.codec.decode) (fun a v => { a with ask := v }) false,
   .put "execution_timeout_ms" int64 (fun a v => { a with timeoutMillis := v })]

def encode (a : AddApplication) : Json :=
  .record [("application_id", .str a.application), ("queue_name", .str a.queue),
    ("partition_name", .str a.partition), ("user", .str a.user),
    ("tags", (Codec.map .string).encode a.tags),
    ("placeholder_ask", Resource.codec.optional.encode a.ask),
    ("execution_timeout_ms", .integer a.timeoutMillis.toInt)]

def codec : Codec AddApplication :=
  { encode
    decode := record fields
      { application := "", queue := "", partition := "", user := "", tags := .empty, ask := none,
        timeoutMillis := 0 } }

end AddApplication

namespace UpdateRequest

def fields : List (RecordField UpdateRequest) :=
  [.put "new_applications" (list AddApplication.codec.decode)
      (fun r v => { r with applications := v }),
   .put "rm_id" string (fun r v => { r with manager := v })]

def encode (r : UpdateRequest) : Json :=
  .record [("new_applications", AddApplication.codec.list.encode r.applications),
    ("rm_id", .str r.manager)]

def codec : Codec UpdateRequest :=
  { encode, decode := record fields { applications := [], manager := "" } }

end UpdateRequest

namespace Registration

def fields : List (RecordField Registration) :=
  [.put "rm_id" string (fun r v => { r with manager := v }),
   .put "policy_group" string (fun r v => { r with policyGroup := v }),
   .put "version" string (fun r v => { r with version := v })]

def encode (r : Registration) : Json :=
  .record [("rm_id", .str r.manager), ("policy_group", .str r.policyGroup),
    ("version", .str r.version)]

def codec : Codec Registration :=
  { encode, decode := record fields { manager := "", policyGroup := "", version := "" } }

end Registration

namespace Rejection

def fields : List (RecordField Rejection) :=
  [.put "application_id" string (fun r v => { r with application := v }),
   .put "reason" string (fun r v => { r with reason := v })]

def encode (r : Rejection) : Json :=
  .record [("application_id", .str r.application), ("reason", .str r.reason)]

def codec : Codec Rejection :=
  { encode, decode := record fields { application := "", reason := "" } }

end Rejection

namespace UpdateResponse

def acceptance : Codec String :=
  { encode := fun application => .record [("application_id", .str application)]
    decode := record [.put "application_id" string fun _ v => v] "" }

def fields : List (RecordField UpdateResponse) :=
  [.put "accepted" (list acceptance.decode) (fun r v => { r with accepted := v }),
   .put "rejected" (list Rejection.codec.decode) (fun r v => { r with rejected := v })]

def encode (r : UpdateResponse) : Json :=
  .record [("accepted", acceptance.list.encode r.accepted),
    ("rejected", Rejection.codec.list.encode r.rejected)]

def codec : Codec UpdateResponse := { encode, decode := record fields {} }

end UpdateResponse

end GangScheduling
