import Overlay.Net.Percent

namespace Overlay.Net.Path

def isBreak (c : Char) : Bool := c == '\t' || c == '\n' || c == '\r'

def unbroken (cs : List Char) : List Char := cs.filter (!isBreak ·)

def isDot (segment : List Char) : Bool :=
  [".", "%2e"].contains (String.ofList (segment.map Char.toLower))

def isDotDot (segment : List Char) : Bool :=
  ["..", ".%2e", "%2e.", "%2e%2e"].contains (String.ofList (segment.map Char.toLower))

def isDriveMark (c : Char) : Bool := c == ':' || c == '|'

def isDrive : List Char → Bool
  | [c, m] => c.isAlpha && isDriveMark m
  | _ => false

/-- Whether going up stops below a segment: at a drive, whatever a backslash or a line break sets
apart from it. -/
def isBarrier : List Char → Bool
  | c :: m :: x :: _ => c.isAlpha && isDriveMark m && (x == '\\' || isBreak x)
  | segment => isDrive segment

def up : List (List Char) → List (List Char)
  | [] => []
  | s :: ss => if isBarrier s then s :: ss else ss

def push (kept : List (List Char)) (segment : List Char) : List (List Char) :=
  if isDotDot segment then up kept
  else if isDot segment then kept
  else Percent.encode Percent.pathReserved segment :: kept

/-- The segments that are kept, in order. A path that ends in a point or two ends in a slash, and
so in an empty segment. -/
def resolve (push : List (List Char) → List Char → List (List Char)) (kept : List (List Char)) :
    List (List Char) → List (List Char)
  | [] => kept.reverse
  | [s] => (if isDot s || isDotDot s then [] :: push kept s else push kept s).reverse
  | s :: ss => resolve push (push kept s) ss

def text (segments : List (List Char)) : List Char := segments.flatMap ('/' :: ·)

def segments : List Char → List (List Char)
  | '/' :: cs => cs.splitOn '/'
  | cs => cs.splitOn '/'

def canonical (cs : List Char) : List Char := text (resolve push [] (segments cs))

/-- Drops the line breaks of a segment, except one between a drive and more text. -/
def unbrokenFile (segment : List Char) : List Char :=
  match segment.dropWhile isBreak, unbroken segment with
  | _ :: ':' :: b :: _, c :: m :: d :: ds =>
    if c.isAlpha && isBreak b then c :: m :: b :: d :: ds else c :: m :: d :: ds
  | _, plain => plain

def pushFile (kept : List (List Char)) (segment : List Char) : List (List Char) :=
  match kept, segment with
  | [], [c, m] => if c.isAlpha && isDriveMark m then [[c, ':']] else push [] [c, m]
  | [], c :: m :: b :: cs =>
    if isBreak b then [Percent.encode Percent.pathReserved cs, [c, m, b]]
    else push [] (c :: m :: b :: cs)
  | kept, segment => push kept (unbroken segment)

def resolveFile : List (List Char) → List (List Char) := resolve pushFile []

def canonicalFile (segments : List (List Char)) : List Char :=
  match (resolveFile segments).dropWhile List.isEmpty with
  | [] => ['/']
  | segments => unbroken (text segments)

def startsAtDrive (segments : List (List Char)) : Bool :=
  ((resolveFile segments).head?.map isDrive).getD false

end Overlay.Net.Path
