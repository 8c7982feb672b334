import GangScheduling.Json

set_option autoImplicit false

namespace GangScheduling

namespace Json

inductive Token
  | openArray
  | closeArray
  | openObject
  | closeObject
  | colon
  | comma
  | text (value : Option String)
  -- A number, a truth value or null.
  | scalar (value : Json)
  | bad
deriving Repr

def isSpace (c : Char) : Bool :=
  c = ' ' || c = '\t' || c = '\n' || c = '\r'

def isNumberChar (c : Char) : Bool :=
  c.isDigit || c = '-' || c = '+' || c = '.' || c = 'e' || c = 'E'

def digitsValue (digits : List Char) : Nat :=
  digits.foldl (fun n c => 10 * n + (c.toNat - '0'.toNat)) 0

def isWhole : List Char → Bool
  | ['0'] => true
  | c :: rest => c ≠ '0' && (c :: rest).all Char.isDigit
  | [] => false

def isExponent : List Char → Bool
  | [] => true
  | mark :: rest =>
    let digits := match rest with
      | '+' :: digits | '-' :: digits => digits
      | digits => digits
    (mark = 'e' || mark = 'E') && !digits.isEmpty && digits.all Char.isDigit

def isFraction : List Char → Bool
  | '.' :: rest =>
    !(rest.takeWhile Char.isDigit).isEmpty && isExponent (rest.dropWhile Char.isDigit)
  | rest => isExponent rest

def number (chars : List Char) : Token :=
  let (negative, rest) := match chars with
    | '-' :: rest => (true, rest)
    | rest => (false, rest)
  let whole := rest.takeWhile Char.isDigit
  let tail := rest.dropWhile Char.isDigit
  if isWhole whole && isFraction tail then
    if tail.isEmpty && !(negative && digitsValue whole = 0) then
      let n : Int := digitsValue whole
      .scalar (.integer (if negative then -n else n))
    else .scalar .decimal
  else .bad

def word (chars : List Char) : Token :=
  if chars = "null".toList then .scalar .null
  else if chars = "true".toList then .scalar (.bool true)
  else if chars = "false".toList then .scalar (.bool false)
  else .bad

/-- Joins the halves of surrogate pairs; a half that stands alone has no text. -/
def joinSurrogates : List Nat → Option (List Char)
  | [] => some []
  | high :: low :: rest =>
    if 0xD800 ≤ high ∧ high < 0xDC00 then
      if 0xDC00 ≤ low ∧ low < 0xE000 then
        (joinSurrogates rest).map
          (Char.ofNat (0x10000 + (high - 0xD800) * 0x400 + (low - 0xDC00)) :: ·)
      else none
    else if 0xDC00 ≤ high ∧ high < 0xE000 then none
    else (joinSurrogates (low :: rest)).map (Char.ofNat high :: ·)
  | [last] => if 0xD800 ≤ last ∧ last < 0xE000 then none else some [Char.ofNat last]

def textToken (units : List Nat) : Token :=
  .text ((joinSurrogates units).map String.ofList)

def simpleEscape? : Char → Option Nat
  | '"' => some 0x22
  | '\\' => some 0x5C
  | '/' => some 0x2F
  | 'b' => some 0x08
  | 'f' => some 0x0C
  | 'n' => some 0x0A
  | 'r' => some 0x0D
  | 't' => some 0x09
  | _ => none

def hexValue? (c : Char) : Option Nat :=
  if c.isDigit then some (c.toNat - '0'.toNat)
  else if 'a' ≤ c ∧ c ≤ 'f' then some (c.toNat - 'a'.toNat + 10)
  else if 'A' ≤ c ∧ c ≤ 'F' then some (c.toNat - 'A'.toNat + 10)
  else none

inductive Mode
  | between
  | word (chars : List Char)
  | number (chars : List Char)
  | string (units : List Nat)
  | escape (units : List Nat)
  | hex (units : List Nat) (missing : Nat) (value : Nat)
  | failed

def begin (c : Char) : Mode × List Token :=
  match c with
  | '[' => (.between, [.openArray])
  | ']' => (.between, [.closeArray])
  | '\x7b' => (.between, [.openObject])
  | '\x7d' => (.between, [.closeObject])
  | ':' => (.between, [.colon])
  | ',' => (.between, [.comma])
  | '"' => (.string [], [])
  | c =>
    if isSpace c then (.between, [])
    else if c = '-' || c.isDigit then (.number [c], [])
    else if c.isAlpha then (.word [c], [])
    else (.failed, [.bad])

def Mode.step (c : Char) : Mode → Mode × List Token
  | .between => begin c
  | .word chars =>
    if c.isAlpha then (.word (c :: chars), [])
    else
      let (mode, tokens) := begin c
      (mode, Json.word chars.reverse :: tokens)
  | .number chars =>
    if isNumberChar c then (.number (c :: chars), [])
    else
      let (mode, tokens) := begin c
      (mode, Json.number chars.reverse :: tokens)
  | .string units =>
    if c = '"' then (.between, [textToken units.reverse])
    else if c = '\\' then (.escape units, [])
    else if c.toNat < 32 then (.failed, [.bad])
    else (.string (c.toNat :: units), [])
  | .escape units =>
    if c = 'u' then (.hex units 4 0, [])
    else match simpleEscape? c with
      | some unit => (.string (unit :: units), [])
      | none => (.failed, [.bad])
  | .hex units missing value =>
    match hexValue? c with
    | none => (.failed, [.bad])
    | some digit =>
      if missing ≤ 1 then (.string ((16 * value + digit) :: units), [])
      else (.hex units (missing - 1) (16 * value + digit), [])
  | .failed => (.failed, [])

def Mode.finish : Mode → List Token
  | .between | .failed => []
  | .word chars => [Json.word chars.reverse]
  | .number chars => [Json.number chars.reverse]
  | .string _ | .escape _ | .hex .. => [.bad]

def tokensFrom : Mode → List Char → List Token
  | mode, [] => mode.finish
  | mode, c :: rest =>
    let (next, tokens) := mode.step c
    tokens ++ tokensFrom next rest

def tokens (text : String) : List Token :=
  tokensFrom .between text.toList

end Json

end GangScheduling
