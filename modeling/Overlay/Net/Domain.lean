import Overlay.Net.Domain.Direction
import Overlay.Net.Domain.Joiner
import Overlay.Net.Domain.Mapping
import Overlay.Net.Domain.Punycode
import Overlay.Text.Canonical
import Overlay.Text.Mark

namespace Overlay.Net

open Text

structure Label where
  shown : List Char
  ascii : List Char

def isAscii (cs : List Char) : Bool := cs.all (·.toNat < 0x80)

namespace Domain

def prepared? (cs : List Char) : Option (List Char) :=
  (cs.mapM mapped?).map fun mapped => Canonical.composed mapped.flatten

def isDenied (c : Char) : Bool :=
  c.toNat ≤ 0x20 || c.toNat == 0x7F ||
    ['%', '#', '/', ':', '<', '>', '?', '@', '[', '\\', ']', '^', '|'].contains c

def longestShown : Nat := 1000

def longestWritten : Nat := 2000

end Domain

namespace Label

def ofWritten? (code : List Char) : Option Label :=
  if Domain.longestWritten < code.length then none
  else
    match Domain.Punycode.decode? code with
    | none => none
    | some shown =>
      if isAscii shown ∨ Domain.longestShown < shown.length ∨
          Domain.prepared? shown ≠ some shown then none
      else some ⟨shown, ['x', 'n', '-', '-'] ++ code⟩

def ofShown? (cs : List Char) : Option Label :=
  if isAscii cs then some ⟨cs, cs⟩
  else if Domain.longestShown < cs.length then none
  else some ⟨cs, ['x', 'n', '-', '-'] ++ Domain.Punycode.encode cs⟩

def ofPrepared? : List Char → Option Label
  | 'x' :: 'n' :: '-' :: '-' :: code => ofWritten? code
  | cs => ofShown? cs

def isWellFormed (l : Label) : Bool :=
  !l.shown.any Domain.isDenied && !(l.shown.head?.any isMark) && Domain.joinersFit [] l.shown

def directions (l : Label) : List Domain.Direction := l.shown.map Domain.Direction.ofChar

end Label

namespace Domain

def directionsFit (ls : List Label) : Bool :=
  let ds := ls.map Label.directions
  !ds.any (·.any Direction.runsRight) || ds.all Direction.fits

def labels? (cs : List Char) : Option (List Label) := do
  let ls ← ((← prepared? cs).splitOn '.').mapM Label.ofPrepared?
  if ls.all Label.isWellFormed ∧ directionsFit ls then some ls else none

def toAscii? (cs : List Char) : Option (List Char) :=
  (labels? cs).map fun ls => ['.'].intercalate (ls.map Label.ascii)

end Domain
end Overlay.Net
