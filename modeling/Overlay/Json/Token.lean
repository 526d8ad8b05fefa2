import Overlay.Json.Literal

namespace Overlay.Json

inductive TextPart
  | char (c : Char)
  | unit (n : Nat)
  deriving DecidableEq, Repr

inductive Token
  | beginList
  | endList
  | beginRecord
  | endRecord
  | colon
  | comma
  | null
  | bool (b : Bool)
  | number (l : Literal)
  | text (parts : List TextPart)
  deriving DecidableEq, Repr

/-- What is being scanned; letters, digits and parts are held last first. -/
inductive Scan
  | between
  | word (letters : List Char)
  | number (digits : List Char)
  | text (parts : List TextPart)
  | escape (parts : List TextPart)
  | unit (parts : List TextPart) (value left : Nat)

structure Scanner where
  scan : Scan
  tokens : List Token

namespace Scanner

def isNumberChar (c : Char) : Bool :=
  c.isDigit || c == '-' || c == '+' || c == '.' || c == 'e' || c == 'E'

def wordToken? (letters : List Char) : Option Token :=
  match letters.reverse with
  | ['n', 'u', 'l', 'l'] => some .null
  | ['t', 'r', 'u', 'e'] => some (.bool true)
  | ['f', 'a', 'l', 's', 'e'] => some (.bool false)
  | _ => none

def finish : Scanner → Option (List Token)
  | ⟨.between, ts⟩ => some ts
  | ⟨.word letters, ts⟩ => (wordToken? letters).map (· :: ts)
  | ⟨.number digits, ts⟩ => (Literal.ofChars? digits.reverse).map fun l => .number l :: ts
  | _ => none

def start (ts : List Token) (c : Char) : Option Scanner :=
  match c with
  | ' ' | '\t' | '\n' | '\r' => some ⟨.between, ts⟩
  | '[' => some ⟨.between, .beginList :: ts⟩
  | ']' => some ⟨.between, .endList :: ts⟩
  | '\x7b' => some ⟨.between, .beginRecord :: ts⟩
  | '\x7d' => some ⟨.between, .endRecord :: ts⟩
  | ':' => some ⟨.between, .colon :: ts⟩
  | ',' => some ⟨.between, .comma :: ts⟩
  | '"' => some ⟨.text [], ts⟩
  | c =>
    if c.isDigit || c == '-' then some ⟨.number [c], ts⟩
    else if c.isLower then some ⟨.word [c], ts⟩
    else none

def escaped? : Char → Option Char
  | '"' => some '"'
  | '\\' => some '\\'
  | '/' => some '/'
  | 'b' => some '\x08'
  | 'f' => some '\x0c'
  | 'n' => some '\n'
  | 'r' => some '\r'
  | 't' => some '\t'
  | _ => none

def hexValue? (c : Char) : Option Nat :=
  if c.isDigit then some (c.toNat - 48)
  else if 'a' ≤ c ∧ c ≤ 'f' then some (c.toNat - 87)
  else if 'A' ≤ c ∧ c ≤ 'F' then some (c.toNat - 55)
  else none

def step (s : Scanner) (c : Char) : Option Scanner :=
  match s.scan with
  | .between => start s.tokens c
  | .word letters =>
    if c.isLower then some { s with scan := .word (c :: letters) }
    else s.finish.bind fun ts => start ts c
  | .number digits =>
    if isNumberChar c then some { s with scan := .number (c :: digits) }
    else s.finish.bind fun ts => start ts c
  | .text parts =>
    if c = '"' then some ⟨.between, .text parts.reverse :: s.tokens⟩
    else if c = '\\' then some { s with scan := .escape parts }
    else if c.toNat < 0x20 then none
    else some { s with scan := .text (.char c :: parts) }
  | .escape parts =>
    if c = 'u' then some { s with scan := .unit parts 0 4 }
    else (escaped? c).map fun d => { s with scan := .text (.char d :: parts) }
  | .unit parts value left =>
    (hexValue? c).map fun d =>
      if left ≤ 1 then { s with scan := .text (.unit (value * 16 + d) :: parts) }
      else { s with scan := .unit parts (value * 16 + d) (left - 1) }

end Scanner

def Token.scan? (cs : List Char) : Option (List Token) :=
  ((cs.foldlM Scanner.step ⟨.between, []⟩).bind Scanner.finish).map List.reverse

end Overlay.Json
