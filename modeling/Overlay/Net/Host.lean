import Overlay.Net.Domain
import Overlay.Net.IpAddress
import Overlay.Net.Percent

namespace Overlay.Net

inductive Host
  | name (text : String)
  | ip (i : IpAddress)
  deriving DecidableEq, Repr

namespace Host

def text : Host → String
  | name s => s
  | ip (.v4 i) => i.text
  | ip (.v6 i) => s!"[{i.hexText}]"

def empty : Host := name ""

def number? (cs : List Char) : Option Nat :=
  let digits (radix : Nat) (ds : List Char) :=
    (Text.appendDigits radix UInt32.size 0 ds).toOption
  match cs with
  | [] => none
  | '0' :: 'x' :: ds => digits 16 ds
  | '0' :: ds => digits 8 ds
  | ds => digits 10 ds

def v4? (labels : List (List Char)) : Option Ipv4 := do
  let ns ← labels.mapM number?
  let last ← ns.getLast?
  let front := ns.dropLast
  let weight := Nat.pow 256
  if 3 < front.length ∨ front.any (256 ≤ ·) ∨ weight (4 - front.length) ≤ last then none
  else
    let weighted := front.zipIdx.map fun (n, i) => n * weight (3 - i)
    let v := weighted.foldl (· + ·) last
    some ⟨UInt8.ofNat (v / weight 3), UInt8.ofNat (v / weight 2), UInt8.ofNat (v / 256),
      UInt8.ofNat v⟩

def labels (cs : List Char) : List (List Char) :=
  let ls := cs.splitOn '.'
  if ls.getLast? = some [] ∧ 1 < ls.length then ls.dropLast else ls

def isHexadecimal : List Char → Bool
  | '0' :: 'x' :: ds => ds.all fun c => (Text.digitValue? 16 c).isSome
  | _ => false

def endsInNumber (cs : List Char) : Bool :=
  match (labels cs).getLast? with
  | some (c :: l) => (c :: l).all Char.isDigit || isHexadecimal (c :: l)
  | _ => false

def bracketed? (cs : List Char) : Option Host :=
  if cs.getLast? = some ']' then (Ipv6.ofChars? cs.dropLast).map fun i => ip (.v6 i) else none

def lookedUp? : List Char → Option Host
  | '[' :: cs => bracketed? cs
  | cs => do
    let cs ← Domain.toAscii? (← Percent.decode? cs).toList
    if cs = [] then none
    else if endsInNumber cs then (v4? (labels cs)).map fun i => ip (.v4 i)
    else some (name (String.ofList cs))

def isExcluded (c : Char) : Bool :=
  ['\x00', '\t', '\n', '\r', ' ', '#', '/', ':', '<', '>', '?', '@', '[', '\\', ']', '^',
    '|'].contains c

def kept? : List Char → Option Host
  | '[' :: cs => bracketed? cs
  | cs => if cs.any isExcluded then none else some (name (String.ofList (Percent.encode [] cs)))

end Host
end Overlay.Net
