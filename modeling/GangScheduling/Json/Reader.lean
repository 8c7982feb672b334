import GangScheduling.Json.Token

set_option autoImplicit false

namespace GangScheduling

namespace Json

structure Document where
  value : Json
  -- The whole text was one JSON value.
  complete : Bool

abbrev Member := Option String × Json

inductive Frame
  | array (items : List Json)
  | member (members : List Member) (key : Option String)

inductive Position
  | value (mayClose : Bool)
  | key (members : List Member) (mayClose : Bool)
  | colon (members : List Member) (key : Option String)
  | afterItem (items : List Json)
  | afterMember (members : List Member)
  | finished (value : Json)

structure Reader where
  position : Position := .value false
  stack : List Frame := []

namespace Reader

def place (value : Json) : List Frame → Reader
  | [] => { position := .finished value, stack := [] }
  | .array items :: rest => { position := .afterItem (value :: items), stack := rest }
  | .member members key :: rest => { position := .afterMember ((key, value) :: members), stack := rest }

def openValue (stack : List Frame) : Token → Option Reader
  | .openArray => some { position := .value true, stack := .array [] :: stack }
  | .openObject => some { position := .key [] true, stack }
  | .text value => some (place (.string value) stack)
  | .scalar value => some (place value stack)
  | _ => none

def step (reader : Reader) (token : Token) : Option Reader :=
  match reader.position, token with
  | .value true, .closeArray =>
    match reader.stack with
    | .array items :: rest => some (place (.array items.reverse) rest)
    | _ => none
  | .value _, token => openValue reader.stack token
  | .key members true, .closeObject => some (place (.object members.reverse) reader.stack)
  | .key members _, .text key => some { reader with position := .colon members key }
  | .colon members key, .colon =>
    some { position := .value false, stack := .member members key :: reader.stack }
  | .afterItem items, .comma =>
    some { position := .value false, stack := .array items :: reader.stack }
  | .afterItem items, .closeArray => some (place (.array items.reverse) reader.stack)
  | .afterMember members, .comma => some { reader with position := .key members false }
  | .afterMember members, .closeObject => some (place (.object members.reverse) reader.stack)
  | _, _ => none

def close (inner : Option Json) : List Frame → Json
  | [] => inner.getD .null
  | .array items :: rest => close (some (.array (inner.toList ++ items).reverse)) rest
  | .member members key :: rest =>
    close (some (.object ((inner.map fun value => (key, value)).toList ++ members).reverse)) rest

def partialValue (reader : Reader) : Json :=
  match reader.position with
  | .value _ => close none reader.stack
  | .key members _ | .colon members _ | .afterMember members =>
    close (some (.object members.reverse)) reader.stack
  | .afterItem items => close (some (.array items.reverse)) reader.stack
  | .finished value => value

def run : Reader → List Token → Document
  | reader, [] =>
    { value := reader.partialValue
      complete := match reader.position with
        | .finished _ => true
        | _ => false }
  | reader, token :: rest =>
    match reader.step token with
    | some next => run next rest
    | none => { value := reader.partialValue, complete := false }

end Reader

def read (text : String) : Document :=
  Reader.run {} (tokens text)

end Json

end GangScheduling
