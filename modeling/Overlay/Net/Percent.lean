namespace Overlay.Net.Percent

def digit (n : Nat) : Char := if n < 10 then Char.ofNat (48 + n) else Char.ofNat (55 + n)

def byte (b : UInt8) : List Char := ['%', digit (b.toNat / 16), digit (b.toNat % 16)]

def utf8 (c : Char) : List UInt8 := (String.singleton c).toUTF8.data.toList

def isPlain (reserved : List Char) (c : Char) : Bool :=
  0x20 ≤ c.toNat && c.toNat ≤ 0x7E && !reserved.contains c

def encodeChar (reserved : List Char) (c : Char) : List Char :=
  if isPlain reserved c then [c] else (utf8 c).flatMap byte

def encode (reserved cs : List Char) : List Char := cs.flatMap (encodeChar reserved)

def fragmentReserved : List Char := [' ', '"', '<', '>', '\x60']

def queryReserved : List Char := [' ', '"', '#', '<', '>']

def pathReserved : List Char := [' ', '"', '#', '<', '>', '?', '\x60', '\x7b', '\x7d']

def userReserved : List Char :=
  pathReserved ++ ['/', ':', ';', '=', '@', '[', '\\', ']', '^', '|']

def digitValue? (c : Char) : Option UInt8 :=
  if c.isDigit then some (UInt8.ofNat (c.toNat - 48))
  else if 'a' ≤ c ∧ c ≤ 'f' then some (UInt8.ofNat (c.toNat - 87))
  else if 'A' ≤ c ∧ c ≤ 'F' then some (UInt8.ofNat (c.toNat - 55))
  else none

def decodeBytes : List Char → List UInt8
  | [] => []
  | '%' :: high :: low :: cs =>
    match digitValue? high, digitValue? low with
    | some h, some l => (h * 16 + l) :: decodeBytes cs
    | _, _ => 0x25 :: decodeBytes (high :: low :: cs)
  | c :: cs => utf8 c ++ decodeBytes cs

def decode? (cs : List Char) : Option String := String.fromUTF8? ⟨(decodeBytes cs).toArray⟩

end Overlay.Net.Percent
