/-!
# Labels in ASCII

A label in any script is written in ASCII as its ASCII characters, a hyphen if there are any, and
digits that say where the others go. The others are inserted in ascending order; what has to be
stepped over between two insertions is a number, written with the lowest digit first. Digits run
from `a` to `9`. A threshold for each place tells the last digit of a number, and follows the
numbers written before.
-/
namespace Overlay.Net.Domain.Punycode

def digitChar (d : Nat) : Char := Char.ofNat (if d < 26 then 97 + d else 22 + d)

def digitValue? (c : Char) : Option Nat :=
  let n := c.toNat
  if 97 ≤ n ∧ n ≤ 122 then some (n - 97)
  else if 65 ≤ n ∧ n ≤ 90 then some (n - 65)
  else if 48 ≤ n ∧ n ≤ 57 then some (n - 22)
  else none

def threshold (bias place : Nat) : Nat := min 26 (max 1 (place - bias))

theorem threshold_pos (bias place : Nat) : 0 < threshold bias place := by
  unfold threshold; omega

theorem threshold_le (bias place : Nat) : threshold bias place ≤ 26 := by
  unfold threshold; omega

def scaleDown (n bias : Nat) : Nat :=
  if 455 < n then scaleDown (n / 35) (bias + 36) else bias + 36 * n / (n + 38)
termination_by n
decreasing_by omega

def nextBias (n count : Nat) (isFirst : Bool) : Nat :=
  let n := if isFirst then n / 700 else n / 2
  scaleDown (n + n / count) 0

/-- What is known between two insertions: the lowest character left, its bias, and the count. -/
structure Progress where
  written : List Char
  steps : Nat := 0
  bias : Nat := 72
  count : Nat
  isFirst : Bool := true

def writeNumber (bias place n : Nat) : List Char :=
  let t := threshold bias place
  if n < t then [digitChar n]
  else digitChar (t + (n - t) % (36 - t)) :: writeNumber bias (place + 36) ((n - t) / (36 - t))
termination_by n
decreasing_by
  have := threshold_pos bias place
  have := threshold_le bias place
  exact Nat.lt_of_le_of_lt (Nat.div_le_self _ _) (by omega)

def pass (code : Nat) (p : Progress) (c : Char) : Progress :=
  if c.toNat < code then { p with steps := p.steps + 1 }
  else if c.toNat = code then
    { written := p.written ++ writeNumber p.bias 36 p.steps
      bias := nextBias p.steps (p.count + 1) p.isFirst
      count := p.count + 1
      isFirst := false }
  else p

def insertCode (cs : List Char) (next : Nat) (p : Progress) (code : Nat) : Progress :=
  cs.foldl (pass code) { p with steps := p.steps + (code - next) * (p.count + 1) }

def insertCodes (cs : List Char) : Nat → Progress → List Nat → Progress
  | _, p, [] => p
  | next, p, code :: codes =>
    let p := insertCode cs next p code
    insertCodes cs (code + 1) { p with steps := p.steps + 1 } codes

def codesOf (cs : List Char) : List Nat :=
  (((cs.map Char.toNat).filter (0x80 ≤ ·)).mergeSort (· ≤ ·)).eraseDups

def basicOf (cs : List Char) : List Char := cs.filter (·.toNat < 0x80)

def encode (cs : List Char) : List Char :=
  let basic := basicOf cs
  let start := if basic = [] then [] else basic ++ ['-']
  (insertCodes cs 0x80 { written := start, count := basic.length } (codesOf cs)).written

def limit : Nat := UInt32.size

structure Reading where
  shown : List Char
  code : Nat := 0x80
  position : Nat := 0
  bias : Nat := 72
  /-- The number so far, with the position added. -/
  value : Nat := 0
  weight : Nat := 1
  place : Nat := 36

def Reading.insert? (r : Reading) (value : Nat) : Option Reading :=
  let count := r.shown.length + 1
  let code := r.code + value / count
  let offset := value % count
  if h : code.isValidChar then
    some {
      shown := r.shown.insertIdx offset (Char.ofNatAux code h)
      code
      position := offset + 1
      bias := nextBias (value - r.position) count (r.position == 0)
      value := offset + 1 }
  else none

def Reading.next? (r : Reading) (c : Char) : Option Reading := do
  let d ← digitValue? c
  let value := r.value + d * r.weight
  let t := threshold r.bias r.place
  let weight := r.weight * (36 - t)
  if limit ≤ value then none
  else if d < t then r.insert? value
  else if limit ≤ weight then none
  else some { r with value, weight, place := r.place + 36 }

def splitBasic (cs : List Char) : List Char × List Char :=
  let digits := (cs.reverse.takeWhile (· ≠ '-')).reverse
  match cs.take (cs.length - digits.length - 1) with
  | [] => ([], cs)
  | basic => (basic, digits)

def decode? (cs : List Char) : Option (List Char) := do
  let (basic, digits) := splitBasic cs
  if basic.any (0x80 ≤ ·.toNat) then none
  else
    let r ← digits.foldlM Reading.next? { shown := basic }
    if r.place = 36 then some r.shown else none

end Overlay.Net.Domain.Punycode
