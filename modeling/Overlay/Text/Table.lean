import Overlay.Text.Numeral

namespace Overlay.Text.Table

def number (cs : List Char) : Nat :=
  cs.foldl (fun n c => 16 * n + (digitValue? 16 c).getD 0) 0

def entries (s : String) : List (List Char) :=
  ((s.toList.map fun c => if c = '\n' then ' ' else c).splitOn ' ').filter (· ≠ [])

def cut (sign : Char) (cs : List Char) : List Char × List Char :=
  (cs.takeWhile (· ≠ sign), (cs.dropWhile (· ≠ sign)).drop 1)

structure Range where
  first : Nat
  last : Nat
  deriving DecidableEq, Repr

instance : Membership Char Range := ⟨fun r c => r.first ≤ c.toNat ∧ c.toNat ≤ r.last⟩

instance (c : Char) (r : Range) : Decidable (c ∈ r) :=
  inferInstanceAs (Decidable (r.first ≤ c.toNat ∧ c.toNat ≤ r.last))

def Range.ofChars (cs : List Char) : Range :=
  match cut '-' cs with
  | (first, []) => ⟨number first, number first⟩
  | (first, last) => ⟨number first, number last⟩

def ranges (s : String) : List Range := (entries s).map Range.ofChars

def covers (rs : List Range) (c : Char) : Bool := rs.any fun r => c ∈ r

def values (s : String) : List (Range × Nat) :=
  (entries s).map fun e => (Range.ofChars (cut ':' e).1, number (cut ':' e).2)

def valueOf (vs : List (Range × Nat)) (c : Char) : Nat :=
  ((vs.find? fun v => c ∈ v.1).map (·.2)).getD 0

def shifted (r : Range) (step target : Nat) : List (Char × List Char) :=
  (List.range ((r.last - r.first) / step + 1)).map fun i =>
    (Char.ofNat (r.first + i * step), [Char.ofNat (target + i * step)])

def listed (source : Nat) (targets : List (List Char)) : List (Char × List Char) :=
  (targets.zipIdx source).map fun (t, n) =>
    (Char.ofNat n, (t.splitOn '+').map fun ds => Char.ofNat (number ds))

def replacementsOf (e : List Char) : List (Char × List Char) :=
  let (sources, targets) := cut ':' e
  if '-' ∈ sources then
    let (range, step) := cut '/' sources
    shifted (Range.ofChars range) (max 1 (number step)) (number targets)
  else listed (number sources) (targets.splitOn ',')

def replacements (s : String) : List (Char × List Char) := (entries s).flatMap replacementsOf

end Overlay.Text.Table
