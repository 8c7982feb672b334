import GangScheduling.Json.Reader
import GangScheduling.Quantity
import GangScheduling.NameMap

set_option autoImplicit false

namespace GangScheduling

namespace Json

inductive Fault
  | malformed
  | quantity (text : String)
deriving DecidableEq, Repr

abbrev Decoder (A : Type) := Json → Except Fault A

def decode {A : Type} (decoder : Decoder A) (text : String) : Except Fault A :=
  let document := read text
  match decoder document.value with
  | .error fault => .error fault
  | .ok value => if document.complete then .ok value else .error .malformed

namespace Decoder

variable {A : Type}

def string : Decoder String
  | .string (some text) => .ok text
  | _ => .error .malformed

def bool : Decoder Bool
  | .bool value => .ok value
  | _ => .error .malformed

def natUpTo (limit : Nat) : Decoder Nat
  | .integer (.ofNat n) => if n ≤ limit then .ok n else .error .malformed
  | _ => .error .malformed

def uint32 : Decoder UInt32 := fun json =>
  (natUpTo (UInt32.size - 1) json).map UInt32.ofNat

def uint64 : Decoder UInt64 := fun json =>
  (natUpTo (UInt64.size - 1) json).map UInt64.ofNat

def int64 : Decoder Int64
  | .integer n =>
    if Int64.minValue.toInt ≤ n ∧ n ≤ Int64.maxValue.toInt then .ok (Int64.ofInt n)
    else .error .malformed
  | _ => .error .malformed

def quantity : Decoder Quantity
  | .string (some text) =>
    match Quantity.parse text with
    | .ok parsed => .ok parsed
    | .error _ => .error (.quantity text)
  | _ => .error .malformed

def optional (decoder : Decoder A) : Decoder (Option A)
  | .null => .ok none
  | json => (decoder json).map some

def items (decoder : Decoder A) : List Json → Except Fault (List A)
  | [] => .ok []
  | json :: rest =>
    match decoder json with
    | .error fault => .error fault
    | .ok value => (items decoder rest).map (value :: ·)

def list (decoder : Decoder A) : Decoder (List A)
  | .array values => items decoder values
  | _ => .error .malformed

def entries (decoder : Decoder A) : NameMap A → List Member → Except Fault (NameMap A)
  | read, [] => .ok read
  | _, (none, _) :: _ => .error .malformed
  | read, (some name, json) :: rest =>
    match decoder json with
    | .error fault => .error fault
    | .ok value => entries decoder (read.insert name value) rest

def map (decoder : Decoder A) : Decoder (NameMap A)
  | .object members => entries decoder .empty members
  | _ => .error .malformed

def choice (choices : List A) (name : A → String) (json : Json) : Except Fault A :=
  let find (text : String) : Except Fault A :=
    match choices.find? fun choice => name choice = text with
    | some found => .ok found
    | none => .error .malformed
  match json with
  | .string (some text) => find text
  | .object [(some text, .null)] => find text
  | _ => .error .malformed

structure RecordField (A : Type) where
  name : String
  required : Bool
  read : A → Json → Except Fault A

def members (fields : List (RecordField A)) :
    List String → A → List Member → Except Fault (List String × A)
  | seen, value, [] => .ok (seen, value)
  | _, _, (none, _) :: _ => .error .malformed
  | seen, value, (some name, json) :: rest =>
    match fields.find? fun field => field.name = name with
    | none => members fields seen value rest
    | some field =>
      if seen.contains name then .error .malformed
      else match field.read value json with
        | .error fault => .error fault
        | .ok next => members fields (name :: seen) next rest

def positions : List (RecordField A) → List String → A → List Json → Except Fault (List String × A)
  | _, seen, value, [] => .ok (seen, value)
  | [], _, _, _ :: _ => .error .malformed
  | field :: fields, seen, value, json :: rest =>
    match field.read value json with
    | .error fault => .error fault
    | .ok next => positions fields (field.name :: seen) next rest

def record (fields : List (RecordField A)) (defaults : A) : Decoder A := fun json =>
  let result := match json with
    | .object values => members fields [] defaults values
    | .array values => positions fields [] defaults values
    | _ => .error .malformed
  match result with
  | .error fault => .error fault
  | .ok (seen, value) =>
    if fields.all fun field => !field.required || seen.contains field.name then .ok value
    else .error .malformed

def RecordField.put {B : Type} (name : String) (decoder : Decoder B) (put : A → B → A)
    (required : Bool := true) : RecordField A :=
  { name, required, read := fun value json => (decoder json).map (put value) }

end Decoder

structure Codec (A : Type) where
  encode : A → Json
  decode : Decoder A

def Codec.normalize {A : Type} (codec : Codec A) (text : String) : Except Fault String :=
  (Json.decode codec.decode text).map fun value => (codec.encode value).compact

namespace Codec

variable {A : Type}

def string : Codec String := { encode := .str, decode := .string }

def list (codec : Codec A) : Codec (List A) :=
  { encode := fun values => .array (values.map codec.encode), decode := .list codec.decode }

def map (codec : Codec A) : Codec (NameMap A) :=
  { encode := fun values => .ofNames values.entries codec.encode, decode := .map codec.decode }

def optional (codec : Codec A) : Codec (Option A) :=
  { encode := .ofOption codec.encode, decode := .optional codec.decode }

def int64 : Codec Int64 := { encode := fun n => .integer n.toInt, decode := .int64 }

def choice (choices : List A) (name : A → String) : Codec A :=
  { encode := fun a => .str (name a), decode := .choice choices name }

def quantity : Codec Quantity :=
  { encode := fun q => .str q.text, decode := .quantity }

end Codec

end Json

end GangScheduling
