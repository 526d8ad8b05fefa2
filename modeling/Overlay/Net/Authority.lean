import Overlay.Net.Host
import Overlay.Net.Scheme

namespace Overlay.Net

structure Authority where
  user : String := ""
  host : Host
  port? : Option Nat := none
  deriving DecidableEq, Repr

namespace Authority

def portText (a : Authority) : String := (a.port?.map fun n => s!":{n}").getD ""

def text (a : Authority) : String := s!"//{a.user}{a.host.text}{a.portText}"

def splitUser (cs : List Char) : Option (List Char) × List Char :=
  if '@' ∈ cs then
    let host := (cs.reverse.takeWhile (· ≠ '@')).reverse
    (some (cs.take (cs.length - host.length - 1)), host)
  else (none, cs)

def splitPassword (cs : List Char) : List Char × Option (List Char) :=
  let (name, password) := cs.span (· ≠ ':')
  (name, if password.length ≤ 1 then none else some (password.drop 1))

def userText (name : List Char) (password? : Option (List Char)) : List Char :=
  let written := Percent.encode Percent.userReserved
  match name, password? with
  | [], none => []
  | name, none => written name ++ ['@']
  | name, some password => written name ++ ':' :: written password ++ ['@']

def isNamed (name : List Char) (password? : Option (List Char)) : Bool :=
  (Percent.decode? name).isSome &&
    (name ≠ [] || (password?.bind fun p => Percent.decode? p).isSome)

def splitHost (inBrackets : Bool) : List Char → List Char × List Char
  | [] => ([], [])
  | c :: cs =>
    if c = ':' ∧ !inBrackets then ([], c :: cs)
    else
      let inBrackets := c == '[' || (inBrackets && c != ']')
      let (host, rest) := splitHost inBrackets cs
      (c :: host, rest)

def readPort? : List Char → Option (Option Nat × List Char)
  | ':' :: cs =>
    let (digits, rest) := cs.span Char.isDigit
    if rest.head?.any (· ≠ '\\') then none
    else if digits = [] then some (none, rest)
    else (Text.appendDigits 10 UInt16.size 0 digits).toOption.map fun n => (some n, rest)
  | rest => some (none, rest)

/-- Reads an authority; `more` tells whether anything follows it in the address. What is left is the
start of the path. -/
def read? (shape : Scheme.Shape) (more : Bool) (cs : List Char) :
    Option (Authority × List Char) := do
  let (user?, cs) := splitUser cs
  if user? = some [] ∧ cs = [] ∧ more then none
  else
    let (name, password?) := splitPassword (user?.getD [])
    let user := userText name password?
    let (hostChars, rest) := splitHost false cs
    let host ← if shape = .other then Host.kept? hostChars else Host.lookedUp? hostChars
    if host = .empty ∧ (user ≠ [] ∨ rest ≠ []) then none
    else
      let (port?, rest) ← readPort? rest
      let user := if isNamed name password? then [] else user
      return ({
        user := String.ofList user
        host
        port? := if port? = shape.ownPort? then none else port? }, rest)

end Authority
end Overlay.Net
