namespace Overlay.Decimal

def powerOfTen (n : Nat) : Float := Float.ofScientific 1 false n

def maxExponent : Nat := 308

def divideByPower (x : Float) (n : Nat) : Float :=
  if n ≤ maxExponent then x / powerOfTen n
  else if x == 0 then x
  else divideByPower (x / powerOfTen maxExponent) (n - maxExponent)
termination_by n
decreasing_by simp only [maxExponent] at *; omega

def scaled? (significand : UInt64) (exponent : Int) : Option Float :=
  let x := significand.toFloat
  match exponent with
  | .ofNat n =>
    if n ≤ maxExponent then
      let y := x * powerOfTen n
      if y.isInf then none else some y
    else if x == 0 then some x
    else none
  | .negSucc n => some (divideByPower x (n + 1))

def accumulate (significand : Nat) : List Nat → Nat × Nat
  | [] => (significand, 0)
  | d :: ds =>
    if significand * 10 + d < UInt64.size then
      let (total, count) := accumulate (significand * 10 + d) ds
      (total, count + 1)
    else (significand, 0)

end Overlay.Decimal
