import GangScheduling.Error
import GangScheduling.Saturation
import GangScheduling.Text.Blank
import GangScheduling.Text.Decimal

set_option autoImplicit false

namespace GangScheduling

/-- The quantity `numerator / 10 ^ places`, with the text it was read from. -/
structure Quantity where
  text : String
  numerator : Int
  places : Nat
deriving DecidableEq, Repr

namespace Quantity

/-- The largest numerator: quantities are computed in 128-bit words. -/
def maxNumerator : Nat := Nat.pow 2 127 - 1

def maxPlaces : Nat := UInt32.size - 1

def maxExponent : Nat := Nat.pow 2 31 - 1

inductive Scaling
  | multiply (factor : Nat)
  | divide (places : Nat)
deriving DecidableEq, Repr

def unit? : List Char → Option Scaling
  | [] => some (.multiply 1)
  | ['K', 'i'] => some (.multiply (Nat.pow 2 10))
  | ['M', 'i'] => some (.multiply (Nat.pow 2 20))
  | ['G', 'i'] => some (.multiply (Nat.pow 2 30))
  | ['T', 'i'] => some (.multiply (Nat.pow 2 40))
  | ['P', 'i'] => some (.multiply (Nat.pow 2 50))
  | ['E', 'i'] => some (.multiply (Nat.pow 2 60))
  | ['n'] => some (.divide 9)
  | ['u'] => some (.divide 6)
  | ['m'] => some (.divide 3)
  | ['k'] => some (.multiply (Nat.pow 10 3))
  | ['M'] => some (.multiply (Nat.pow 10 6))
  | ['G'] => some (.multiply (Nat.pow 10 9))
  | ['T'] => some (.multiply (Nat.pow 10 12))
  | ['P'] => some (.multiply (Nat.pow 10 15))
  | ['E'] => some (.multiply (Nat.pow 10 18))
  | _ => none

def exponent? (digits : List Char) : Option Scaling :=
  match Text.readInteger maxExponent digits with
  -- A power that no numerator can take is refused before it is computed.
  | .ok (.ofNat power) => if power ≤ 38 then some (.multiply (Nat.pow 10 power)) else none
  | .ok (.negSucc power) => some (.divide (power + 1))
  | .error _ => none

def scaling? (suffix : List Char) : Option Scaling :=
  match unit? suffix, suffix with
  | some scaling, _ => some scaling
  | none, mark :: digits =>
    if (mark = 'e' ∨ mark = 'E') ∧ digits ≠ [] then exponent? digits else none
  | none, [] => none

def splitPoint (number : List Char) : List Char × List Char :=
  (number.takeWhile (· ≠ '.'), (number.dropWhile (· ≠ '.')).drop 1)

def mantissa? (number : List Char) : Option (Nat × Nat) :=
  let (whole, fraction) := splitPoint number
  if '.' ∈ fraction then none
  else match Text.readDigits maxNumerator (whole ++ fraction) with
    | .ok digits => if fraction.length ≤ maxPlaces then some (digits, fraction.length) else none
    | .error _ => none

def scale? (digits places : Nat) : Scaling → Option (Nat × Nat)
  | .multiply factor => if digits * factor ≤ maxNumerator then some (digits * factor, places) else none
  | .divide more => if places + more ≤ maxPlaces then some (digits, places + more) else none

def isNumberChar (c : Char) : Bool :=
  Text.isDigit c || c = '.'

def magnitude? (text : List Char) : Option (Nat × Nat) := do
  let (digits, places) ← mantissa? (text.takeWhile isNumberChar)
  let scaling ← scaling? (text.dropWhile isNumberChar)
  scale? digits places scaling

def ofTrimmed? (text : List Char) : Option Quantity :=
  match text with
  | [] => none
  | '-' :: rest => (magnitude? rest).map fun (digits, places) =>
      { text := String.ofList text, numerator := -(digits : Int), places }
  | '+' :: rest => (magnitude? rest).map fun (digits, places) =>
      { text := String.ofList text, numerator := digits, places }
  | rest => (magnitude? rest).map fun (digits, places) =>
      { text := String.ofList text, numerator := digits, places }

def parse (text : String) : Except Error Quantity :=
  match ofTrimmed? (Text.trim text.toList) with
  | some quantity => .ok quantity
  | none => .error (.invalidQuantity text)

/-- The largest power of ten in a 128-bit word is the 38th. -/
def maxPower : Nat := 38

def ceilDiv (a b : Int) : Int :=
  -((-a) / b)

/-- The quantity in units of `10 ^ scale`, rounded up and then rounded into 64 bits. -/
def scaledValue (quantity : Quantity) (scale : Int) : Int64 :=
  match (quantity.places : Int) + scale with
  | .ofNat shift =>
    if shift ≤ maxPower then saturate (ceilDiv quantity.numerator (Nat.pow 10 shift))
    else if 0 < quantity.numerator then 1 else 0
  | .negSucc shift =>
    if shift + 1 ≤ maxPower then saturate (quantity.numerator * Nat.pow 10 (shift + 1))
    -- A unit too small for a 128-bit word saturates whatever the numerator is.
    else Int64.maxValue

def milliValue (quantity : Quantity) : Int64 :=
  quantity.scaledValue (-3)

def value (quantity : Quantity) : Int64 :=
  quantity.scaledValue 0

end Quantity

end GangScheduling
