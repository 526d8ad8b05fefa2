namespace Overlay.Decimal

structure Expansion where
  digits : Nat
  exponent : Int
  deriving DecidableEq, Repr

/-- A finite positive double: the value `m * 2 ^ q`, and whether the gap below it is half the gap
above it. -/
structure Binary where
  m : Nat
  q : Int
  narrowBelow : Bool

def Binary.ofBits (bits : UInt64) : Binary :=
  let biased := ((bits >>> 52) &&& 0x7FF).toNat
  let fraction := (bits &&& 0xFFFFFFFFFFFFF).toNat
  if biased = 0 then ⟨fraction, -1074, false⟩
  else ⟨0x10000000000000 + fraction, (biased : Int) - 1075, fraction == 0 && biased != 1⟩

/-- The point of the grid `10 ^ k` that rounds to `b` and is nearest to it, even on a tie. -/
def Binary.onGrid? (b : Binary) (k : Int) : Option Nat :=
  let unit := Nat.pow 2 (b.q - 2).toNat * Nat.pow 10 (-k).toNat
  let step := Nat.pow 10 k.toNat * Nat.pow 2 (2 - b.q).toNat
  let low := (4 * b.m - if b.narrowBelow then 1 else 2) * unit
  let high := (4 * b.m + 2) * unit
  let centre := 4 * b.m * unit
  let hits (c : Nat) : Bool :=
    if b.m % 2 = 0 then low ≤ c * step && c * step ≤ high else low < c * step && c * step < high
  let below := centre / step
  let above := below + 1
  match hits below, hits above with
  | true, true =>
    let double := 2 * centre
    let middle := (below + above) * step
    if double < middle || (double == middle && below % 2 == 0) then some below else some above
  | true, false => some below
  | false, true => some above
  | false, false => none

def Binary.shortest (b : Binary) : Expansion :=
  let top := ((b.m.log2 : Int) + 1 + b.q) * 30103 / 100000 + 1
  let onGrid (i : Nat) : Option Expansion :=
    (b.onGrid? (top - i)).map fun c => ⟨c, top - i⟩
  ((List.range 24).findSome? onGrid).getD ⟨0, 0⟩

structure Style where
  leastPositional : Int
  mostPositional : Int

/-- Positional from `1e-5` up to below `1e16`, with a fraction always present; otherwise one digit
before the point and a signed exponent. -/
def plainStyle : Style := ⟨-5, 15⟩

def Expansion.chars (d : Expansion) (style : Style) : List Char :=
  let ds := Nat.toDigits 10 d.digits
  let leading := (ds.length : Int) - 1 + d.exponent
  if style.leastPositional ≤ leading ∧ leading ≤ style.mostPositional then
    if 0 ≤ d.exponent then ds ++ List.replicate d.exponent.toNat '0' ++ ['.', '0']
    else if 0 ≤ leading then
      ds.take (leading.toNat + 1) ++ '.' :: ds.drop (leading.toNat + 1)
    else '0' :: '.' :: List.replicate (-leading - 1).toNat '0' ++ ds
  else
    let fraction := ds.drop 1
    ds.take 1 ++ (if fraction.isEmpty then [] else '.' :: fraction) ++
      'e' :: (if leading < 0 then '-' else '+') :: Nat.toDigits 10 leading.natAbs

def text (x : Float) : String :=
  let bits := x.toBits
  let sign := if bits >>> 63 == 1 then ['-'] else []
  let b := Binary.ofBits (bits &&& 0x7FFFFFFFFFFFFFFF)
  let body := if b.m = 0 then ['0', '.', '0'] else b.shortest.chars plainStyle
  String.ofList (sign ++ body)

end Overlay.Decimal
