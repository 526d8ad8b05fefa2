import Overlay.Net.Ipv4

namespace Overlay.Net

structure Ipv6 where
  groups : List UInt16
  length_groups : groups.length = 8
  deriving DecidableEq, Repr

def Ipv4.groups (i : Ipv4) : List UInt16 :=
  [i.a.toUInt16 * 256 + i.b.toUInt16, i.c.toUInt16 * 256 + i.d.toUInt16]

namespace Ipv6

def group? (cs : List Char) : Option UInt16 :=
  if cs = [] ∨ 4 < cs.length then none
  else (Text.appendDigits 16 65536 0 cs).toOption.map UInt16.ofNat

def groups? : List (List Char) → Option (List UInt16)
  | [] => some []
  | [last] => ((group? last).map fun g => [g]) <|> (Ipv4.ofChars? last).map Ipv4.groups
  | piece :: pieces => do return (← group? piece) :: (← groups? pieces)

def pieces (cs : List Char) : List (List Char) := if cs = [] then [] else cs.splitOn ':'

def splitGap : List Char → Option (List Char × List Char)
  | [] => none
  | ':' :: ':' :: cs => some ([], cs)
  | c :: cs => (splitGap cs).map fun (left, right) => (c :: left, right)

def ofGroups? (gs : List UInt16) : Option Ipv6 :=
  if h : gs.length = 8 then some ⟨gs, h⟩ else none

def ofChars? (cs : List Char) : Option Ipv6 :=
  match splitGap cs with
  | none => (groups? (pieces cs)).bind ofGroups?
  | some (left, right) => do
    let left ← (pieces left).mapM group?
    let right ← groups? (pieces right)
    if left.length + right.length < 8 then
      ofGroups? (left ++ List.replicate (8 - left.length - right.length) 0 ++ right)
    else none

def groupText (g : UInt16) : String := String.ofList (Nat.toDigits 16 g.toNat)

def join (gs : List UInt16) : String := ":".intercalate (gs.map groupText)

def zeroRun? (gs : List UInt16) : Option (Nat × Nat) :=
  let runs := [8, 7, 6, 5, 4, 3, 2].flatMap fun n => (List.range (9 - n)).map fun i => (i, n)
  runs.find? fun (i, n) => ((gs.drop i).take n).all (· == 0)

def hexText (i : Ipv6) : String :=
  match zeroRun? i.groups with
  | none => join i.groups
  | some (start, n) => s!"{join (i.groups.take start)}::{join (i.groups.drop (start + n))}"

def text (i : Ipv6) : String :=
  match i.groups with
  | [0, 0, 0, 0, 0, 0xFFFF, high, low] =>
    s!"::ffff:{high.toNat / 256}.{high.toNat % 256}.{low.toNat / 256}.{low.toNat % 256}"
  | _ => i.hexText

end Ipv6
end Overlay.Net
