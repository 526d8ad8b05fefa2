import Overlay.Decimal.Scaled

namespace Overlay.Json

inductive Number
  | int (n : Int)
  | double (x : Float)

structure Literal where
  negative : Bool
  whole : List Nat
  fraction : Option (List Nat)
  exponent : Option Int
  deriving DecidableEq, Repr

namespace Literal

def digitsOf (cs : List Char) : List Nat := cs.map fun c => c.toNat - 48

def numberOf (cs : List Char) : Nat := (digitsOf cs).foldl (fun n d => n * 10 + d) 0

def isWhole : List Char → Bool
  | [] => false
  | '0' :: cs => cs.isEmpty
  | _ => true

def splitFraction : List Char → Option (Option (List Nat) × List Char)
  | '.' :: cs =>
    let (ds, rest) := cs.span Char.isDigit
    if ds.isEmpty then none else some (some (digitsOf ds), rest)
  | cs => some (none, cs)

def exponentOf : List Char → Option (Option Int)
  | [] => some none
  | e :: cs =>
    if e = 'e' ∨ e = 'E' then
      let (negative, ds) :=
        match cs with
        | '-' :: ds => (true, ds)
        | '+' :: ds => (false, ds)
        | ds => (false, ds)
      if ds.isEmpty || !ds.all Char.isDigit then none
      else
        let n : Int := numberOf ds
        some (some (if negative then -n else n))
    else none

def ofChars? (cs : List Char) : Option Literal := do
  let (negative, cs) :=
    match cs with
    | '-' :: cs => (true, cs)
    | cs => (false, cs)
  let (whole, rest) := cs.span Char.isDigit
  if isWhole whole then
    let (fraction, rest) ← splitFraction rest
    let exponent ← exponentOf rest
    some ⟨negative, digitsOf whole, fraction, exponent⟩
  else none

def value? (l : Literal) : Option Number :=
  let (lead, kept) := Decimal.accumulate 0 l.whole
  let dropped := l.whole.length - kept
  match l.fraction, l.exponent, dropped with
  | none, none, 0 =>
    if !l.negative then some (.int lead)
    else if 0 < lead ∧ lead ≤ UInt64.size / 2 then some (.int (-lead))
    else some (.double (-(UInt64.ofNat lead).toFloat))
  | fraction, exponent, _ =>
    let (significand, used) := Decimal.accumulate lead (fraction.getD [])
    let exponent := (dropped : Int) - used + exponent.getD 0
    (Decimal.scaled? (UInt64.ofNat significand) exponent).map fun x =>
      .double (if l.negative then -x else x)

end Literal
end Overlay.Json
