import GangScheduling.Json
import GangScheduling.NameMap

set_option autoImplicit false

namespace GangScheduling

namespace Json

def asText : Json → String
  | .string (some text) => text
  | _ => ""

def asInt : Json → Int
  | .integer n => n
  | .string (some text) => text.toInt?.getD 0
  | _ => 0

def asItems : Json → List Json
  | .array items => items
  | _ => []

def has (json : Json) (key : String) : Bool :=
  match json with
  | .object members => (members.lookup (some key)).isSome
  | _ => false

def get? (json : Json) (key : String) : Option Json :=
  match json with
  | .object members =>
    match members.lookup (some key) with
    | some .null => none
    | found => found
  | _ => none

def get (json : Json) (key : String) : Json :=
  (json.get? key).getD .null

def text? (json : Json) (key : String) : Option String :=
  (json.get? key).map asText

def text (json : Json) (key : String) (missing : String := "") : String :=
  (json.text? key).getD missing

def int (json : Json) (key : String) (missing : Int := 0) : Int :=
  ((json.get? key).map asInt).getD missing

def count? (json : Json) (key : String) : Option Nat :=
  (json.get? key).map fun value => value.asInt.toNat

def count (json : Json) (key : String) (missing : Nat := 0) : Nat :=
  (json.count? key).getD missing

def flag (json : Json) (key : String) (missing : Bool := false) : Bool :=
  match json.get? key with
  | some (.bool value) => value
  | _ => missing

def items (json : Json) (key : String) : List Json :=
  (json.get key).asItems

def texts (json : Json) (key : String) : List String :=
  (json.items key).map asText

def entries (json : Json) (key : String) : List (String × Json) :=
  match json.get? key with
  | some (.object members) => members.map fun entry => (entry.1.getD "", entry.2)
  | _ => []

def textMap (json : Json) (key : String) : NameMap String :=
  .ofEntries ((json.entries key).map fun entry => (entry.1, entry.2.asText))

def pairs (json : Json) (key : String) : List (Json × Json) :=
  (json.items key).filterMap fun pair =>
    match pair.asItems with
    | [first, second] => some (first, second)
    | _ => none

end Json

end GangScheduling
