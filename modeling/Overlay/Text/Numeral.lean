namespace Overlay.Text

inductive NumeralError
  | empty
  | badDigit
  | tooLarge
  deriving DecidableEq, Repr

def NumeralError.message : NumeralError → String
  | .empty => "cannot parse integer from empty string"
  | .badDigit => "invalid digit found in string"
  | .tooLarge => "number too large to fit in target type"

def digitValue? (radix : Nat) (c : Char) : Option Nat :=
  let n := c.toNat
  let value :=
    if 48 ≤ n ∧ n ≤ 57 then n - 48
    else if 97 ≤ n ∧ n ≤ 122 then n - 87
    else if 65 ≤ n ∧ n ≤ 90 then n - 55
    else radix
  if value < radix then some value else none

def appendDigits (radix limit : Nat) : Nat → List Char → Except NumeralError Nat
  | value, [] => .ok value
  | value, c :: cs =>
    match digitValue? radix c with
    | none => .error .badDigit
    | some d =>
      if value * radix + d < limit then appendDigits radix limit (value * radix + d) cs
      else .error .tooLarge

def numeral (radix limit : Nat) : List Char → Except NumeralError Nat
  | [] => .error .empty
  | ['+'] => .error .badDigit
  | '+' :: cs => appendDigits radix limit 0 cs
  | cs => appendDigits radix limit 0 cs

def signedNumeral? (limit : Nat) : List Char → Option Int
  | ['-'] => none
  | '-' :: cs => (appendDigits 10 limit 0 cs).toOption.map fun n => -(n : Int)
  | cs => (numeral 10 limit cs).toOption.map fun n => (n : Int)

end Overlay.Text
