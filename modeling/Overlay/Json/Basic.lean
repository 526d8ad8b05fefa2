import Overlay.Text.Keyed

namespace Overlay

inductive Json
  | null
  | bool (b : Bool)
  | int (n : Int)
  | double (x : Float)
  | str (s : String)
  | arr (items : List Json)
  | obj (members : List (String × Json))
  deriving Inhabited, Repr, BEq

namespace Json

def member? (k : String) : Json → Option Json
  | .obj ms => (Text.sortKeys ms).lookup k
  | _ => none

theorem member?_obj (k : String) (ms : List (String × Json)) :
    (Json.obj ms).member? k = ms.reverse.lookup k := Text.lookup_sortKeys k ms

def text? : Json → Option String
  | .str s => some s
  | _ => none

def word? : Json → Option UInt64
  | .int n => if 0 ≤ n ∧ n < UInt64.size then some (UInt64.ofNat n.toNat) else none
  | _ => none

def ofWord (n : UInt64) : Json := .int n.toNat

def ofNat (n : Nat) : Json := .int n

@[simp] theorem word?_ofWord (n : UInt64) : (ofWord n).word? = some n := by
  have h := n.toNat_lt_size
  simp only [word?, ofWord]
  rw [if_pos ⟨Int.natCast_nonneg _, Int.ofNat_lt.mpr h⟩]
  simp

end Json
end Overlay
