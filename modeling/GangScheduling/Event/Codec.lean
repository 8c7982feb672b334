import GangScheduling.Json.Decode
import GangScheduling.Notice

set_option autoImplicit false

namespace GangScheduling

open Json Json.Decoder

def ApplicationState.codec : Codec ApplicationState := .choice all name

def EventKind.codec : Codec EventKind := .choice all name

def TaskState.codec : Codec TaskState := .choice all name

def TerminationType.codec : Codec TerminationType := .choice all name

def Severity.codec : Codec Severity := .choice [.normal, .warning] name

namespace ApplicationEvent

def fields : List (RecordField ApplicationEvent) :=
  [.put "app_id" string (fun e v => { e with application := v }),
   .put "event_type" EventKind.codec.decode (fun e v => { e with kind := v }),
   .put "args" (list string) (fun e v => { e with arguments := v })]

def encode (e : ApplicationEvent) : Json :=
  .record [("app_id", .str e.application), ("event_type", EventKind.codec.encode e.kind),
    ("args", Codec.string.list.encode e.arguments)]

def codec : Codec ApplicationEvent :=
  { encode, decode := record fields { application := "", kind := .submit } }

end ApplicationEvent

namespace TaskEvent

def kinds : Codec Unit := .choice [()] fun _ => kindName

def fields : List (RecordField TaskEvent) :=
  [.put "app_id" string (fun e v => { e with application := v }),
   .put "task_id" string (fun e v => { e with task := v }),
   .put "event" kinds.decode (fun e _ => e)]

def encode (e : TaskEvent) : Json :=
  .record [("app_id", .str e.application), ("task_id", .str e.task), ("event", kinds.encode ())]

def codec : Codec TaskEvent :=
  { encode, decode := record fields { application := "", task := "" } }

end TaskEvent

namespace Pod

def fields : List (RecordField Pod) :=
  [.put "namespace" string (fun p v => { p with space := v }),
   .put "name" string (fun p v => { p with name := v }),
   .put "uid" string (fun p v => { p with uid := v })]

def encode (p : Pod) : Json :=
  .record [("namespace", .str p.space), ("name", .str p.name), ("uid", .str p.uid)]

def codec : Codec Pod :=
  { encode, decode := record fields { space := "", name := "", uid := "" } }

end Pod

end GangScheduling
