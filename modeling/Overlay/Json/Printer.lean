import Overlay.Decimal.Shortest
import Overlay.Json.Basic

namespace Overlay.Json

def hexDigit (n : Nat) : Char := if n < 10 then Char.ofNat (48 + n) else Char.ofNat (87 + n)

def escapedChar (c : Char) : List Char :=
  match c with
  | '"' => ['\\', '"']
  | '\\' => ['\\', '\\']
  | '\n' => ['\\', 'n']
  | '\r' => ['\\', 'r']
  | '\t' => ['\\', 't']
  | '\x08' => ['\\', 'b']
  | '\x0c' => ['\\', 'f']
  | c =>
    if c.toNat < 0x20 then
      ['\\', 'u', '0', '0', hexDigit (c.toNat / 16), hexDigit (c.toNat % 16)]
    else [c]

def textChars (s : String) : List Char := '"' :: s.toList.flatMap escapedChar ++ ['"']

mutual
def chars : Json → List Char
  | .null => ['n', 'u', 'l', 'l']
  | .bool true => ['t', 'r', 'u', 'e']
  | .bool false => ['f', 'a', 'l', 's', 'e']
  | .int n => (toString n).toList
  | .double x => (Decimal.text x).toList
  | .str s => textChars s
  | .arr items => '[' :: itemChars items ++ [']']
  | .obj members => '\x7b' :: memberChars members ++ ['\x7d']
def itemChars : List Json → List Char
  | [] => []
  | [v] => v.chars
  | v :: vs => v.chars ++ ',' :: itemChars vs
def memberChars : List (String × Json) → List Char
  | [] => []
  | [(k, v)] => textChars k ++ ':' :: v.chars
  | (k, v) :: ms => textChars k ++ ':' :: v.chars ++ ',' :: memberChars ms
end

def compact (v : Json) : String := String.ofList v.chars

end Overlay.Json
