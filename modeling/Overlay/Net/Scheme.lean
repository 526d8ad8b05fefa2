import Overlay.Net.Percent

namespace Overlay.Net.Scheme

inductive Shape
  | special (ownPort : Nat)
  | file
  | other
  deriving DecidableEq, Repr

namespace Shape

def ofName : String → Shape
  | "http" | "ws" => special 80
  | "https" | "wss" => special 443
  | "ftp" => special 21
  | "file" => file
  | _ => other

def ownPort? : Shape → Option Nat
  | special n => some n
  | file => none
  | other => none

def queryReserved : Shape → List Char
  | other => Percent.queryReserved
  | _ => '\x27' :: Percent.queryReserved

end Shape

def isNameChar (c : Char) : Bool := c.isAlphanum || c == '+' || c == '-' || c == '.'

def name? : List Char → Option String
  | [] => none
  | c :: cs =>
    if c.isAlpha && cs.all isNameChar then some (String.ofList ((c :: cs).map Char.toLower))
    else none

end Overlay.Net.Scheme
