import Overlay.Text.Numeral

namespace Overlay.Net

structure Ipv4 where
  a : UInt8
  b : UInt8
  c : UInt8
  d : UInt8
  deriving DecidableEq, Repr

namespace Ipv4

def octet? (cs : List Char) : Option UInt8 :=
  if cs = [] ∨ 3 < cs.length ∨ (cs.head? = some '0' ∧ cs ≠ ['0']) then none
  else (Text.appendDigits 10 256 0 cs).toOption.map UInt8.ofNat

def ofChars? (cs : List Char) : Option Ipv4 :=
  match (cs.splitOn '.').map octet? with
  | [some a, some b, some c, some d] => some ⟨a, b, c, d⟩
  | _ => none

def text (i : Ipv4) : String := s!"{i.a.toNat}.{i.b.toNat}.{i.c.toNat}.{i.d.toNat}"

instance : ToString Ipv4 := ⟨text⟩

end Ipv4
end Overlay.Net
