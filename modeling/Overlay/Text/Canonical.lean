import Overlay.Text.Canonical.Table
/-!
# The composed form of a text

Texts that look the same may be written in different ways: a letter with a mark is one character or
two, and marks that do not touch stand in any order. `composed` chooses one way. It takes every
character apart, puts the marks after each letter in the order of their classes, and then joins each
mark to its letter where there is a character for both.
-/
namespace Overlay.Text.Canonical

def syllable (leading vowel trailing : Nat) : Char :=
  Char.ofNat (0xAC00 + (leading * 21 + vowel) * 28 + trailing)

def isSyllable (c : Char) : Bool := 0xAC00 ≤ c.toNat && c.toNat ≤ 0xD7A3

def syllableParts (c : Char) : Nat × Nat × Nat :=
  let n := c.toNat - 0xAC00
  (n / 28 / 21, n / 28 % 21, n % 28)

def syllableChars (c : Char) : List Char :=
  let (leading, vowel, trailing) := syllableParts c
  [Char.ofNat (0x1100 + leading), Char.ofNat (0x1161 + vowel)] ++
    if trailing = 0 then [] else [Char.ofNat (0x11A7 + trailing)]

def joinSyllable? (a b : Char) : Option Char :=
  let leading := a.toNat - 0x1100
  let vowel := b.toNat - 0x1161
  let trailing := b.toNat - 0x11A7
  if 0x1100 ≤ a.toNat ∧ leading < 19 ∧ 0x1161 ≤ b.toNat ∧ vowel < 21 then
    some (syllable leading vowel 0)
  else if isSyllable a ∧ (syllableParts a).2.2 = 0 ∧ 0x11A7 < b.toNat ∧ trailing < 28 then
    some (syllable (syllableParts a).1 (syllableParts a).2.1 trailing)
  else none

def parts (c : Char) : List Char :=
  if c.toNat < 0xC0 then [c]
  else if isSyllable c then syllableChars c
  else ((twoWay.lookup c <|> oneWay.lookup c)).getD [c]

def join? (a b : Char) : Option Char :=
  let both := parts a ++ [b]
  joinSyllable? a b <|> (twoWay.find? fun e => e.2 == both).map (·.1)

def classOf (c : Char) : Nat := if c.toNat < 0x300 then 0 else Table.valueOf classes c

def insertMark (c : Char) : List Char → List Char
  | [] => [c]
  | d :: ds =>
    if classOf d ≠ 0 ∧ classOf d < classOf c then d :: insertMark c ds else c :: d :: ds

def ordered (cs : List Char) : List Char := cs.foldr insertMark []

def isBlocked (marks : List Char) (c : Char) : Bool :=
  match marks with
  | [] => false
  | m :: _ => classOf c ≤ classOf m

def joinAll (letter : Char) (marks : List Char) : List Char → List Char
  | [] => letter :: marks.reverse
  | c :: cs =>
    match if isBlocked marks c then none else join? letter c with
    | some joined => joinAll joined marks cs
    | none =>
      if classOf c = 0 then letter :: marks.reverse ++ joinAll c [] cs
      else joinAll letter (c :: marks) cs

/-- The composed form. Below U+0300 nothing is a mark, so such a text is composed already. -/
def composed (cs : List Char) : List Char :=
  if cs.all (·.toNat < 0x300) then cs
  else
    match ordered (cs.flatMap parts) with
    | [] => []
    | c :: cs => joinAll c [] cs

end Overlay.Text.Canonical
