set_option autoImplicit false

namespace GangScheduling

/-- A JSON value as it is written: the members of an object keep their order and may repeat a key.
A string is `none` if its escapes name half of a surrogate pair, so that no text belongs to it. -/
inductive Json
  | null
  | bool (value : Bool)
  | integer (value : Int)
  -- A number with a fraction or an exponent, or a negative zero.
  | decimal
  | string (text : Option String)
  | array (items : List Json)
  | object (members : List (Option String × Json))
deriving Repr, Inhabited

namespace Json

def str (text : String) : Json := .string (some text)

def nat (n : Nat) : Json := .integer n

def ofNames {A : Type} (map : List (String × A)) (value : A → Json) : Json :=
  .object (map.map fun entry => (some entry.1, value entry.2))

def record (fields : List (String × Json)) : Json :=
  ofNames fields id

def ofOption {A : Type} (value : A → Json) : Option A → Json
  | none => .null
  | some a => value a

def hexDigit (n : Nat) : Char :=
  "0123456789abcdef".toList.getD n '0'

def escapeChar (c : Char) : List Char :=
  match c with
  | '"' => ['\\', '"']
  | '\\' => ['\\', '\\']
  | '\n' => ['\\', 'n']
  | '\r' => ['\\', 'r']
  | '\t' => ['\\', 't']
  | '\x08' => ['\\', 'b']
  | '\x0c' => ['\\', 'f']
  | c =>
    if c.toNat < 32 then
      ['\\', 'u', '0', '0', hexDigit (c.toNat / 16), hexDigit (c.toNat % 16)]
    else [c]

def quote (text : String) : List Char :=
  '"' :: text.toList.flatMap escapeChar ++ ['"']

mutual

def write : Json → List Char
  | .null => "null".toList
  | .bool true => "true".toList
  | .bool false => "false".toList
  | .integer value => (toString value).toList
  | .decimal => "-0".toList
  | .string text => quote (text.getD "")
  | .array items => '[' :: writeItems items ++ [']']
  | .object members => '\x7b' :: writeMembers members ++ ['\x7d']

def writeItems : List Json → List Char
  | [] => []
  | [item] => write item
  | item :: rest => write item ++ ',' :: writeItems rest

def writeMembers : List (Option String × Json) → List Char
  | [] => []
  | [(key, value)] => quote (key.getD "") ++ ':' :: write value
  | (key, value) :: rest =>
    quote (key.getD "") ++ ':' :: write value ++ ',' :: writeMembers rest

end

def compact (json : Json) : String :=
  String.ofList json.write

end Json

end GangScheduling
