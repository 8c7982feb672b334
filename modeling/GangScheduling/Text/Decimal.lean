set_option autoImplicit false

namespace GangScheduling.Text

def digit? (c : Char) : Option Nat :=
  if '0' <= c && c <= '9' then some (c.toNat - '0'.toNat) else none

def isDigit (c : Char) : Bool :=
  (digit? c).isSome

inductive IntegerFault
  | empty
  | notADigit
  | tooLarge
deriving DecidableEq, Repr

def IntegerFault.message : IntegerFault → String
  | .empty => "cannot parse integer from empty string"
  | .notADigit => "invalid digit found in string"
  | .tooLarge => "number too large to fit in target type"

def extendDigits (limit : Nat) : Nat → List Char → Except IntegerFault Nat
  | read, [] => .ok read
  | read, c :: rest =>
    match digit? c with
    | none => .error .notADigit
    | some d => if 10 * read + d <= limit then extendDigits limit (10 * read + d) rest
        else .error .tooLarge

def readDigits (limit : Nat) : List Char → Except IntegerFault Nat
  | [] => .error .notADigit
  | digits => extendDigits limit 0 digits

def readNatural (limit : Nat) : List Char → Except IntegerFault Nat
  | [] => .error .empty
  | '+' :: digits => readDigits limit digits
  | digits => readDigits limit digits

def readInteger (limit : Nat) : List Char → Except IntegerFault Int
  | '-' :: digits => (readDigits (limit + 1) digits).map fun n => -(n : Int)
  | text => (readNatural limit text).map fun n => (n : Int)

end GangScheduling.Text
