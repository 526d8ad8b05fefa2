import Overlay.Net.Authority
import Overlay.Net.Path
/-!
# Addresses on the web

`Url.parse?` reads an absolute address into its canonical form: the scheme in lower case, the host
as it is looked up, no port where it is the scheme's own, a path without dot segments, and percent
signs for whatever a part may not hold. Addresses whose scheme is not special have an authority, a
path, or just some text after the scheme.
-/
namespace Overlay.Net

structure Url where
  scheme : String
  authority? : Option Authority
  path : String
  query : String
  fragment : String
  deriving DecidableEq, Repr

namespace Url

def authorityText (u : Url) : String := (u.authority?.map Authority.text).getD ""

def text (u : Url) : String := s!"{u.scheme}:{u.authorityText}{u.path}{u.query}{u.fragment}"

def trimmed (cs : List Char) : List Char :=
  let ignored (c : Char) : Bool := c.toNat ≤ 0x20
  (((cs.dropWhile ignored).reverse).dropWhile ignored).reverse

def splitAt (sign : Char) (cs : List Char) : List Char × List Char := cs.span (· ≠ sign)

def encodePart (reserved : List Char) : List Char → String
  | [] => ""
  | sign :: cs => String.ofList (sign :: Percent.encode reserved cs)

def slashed (cs : List Char) : List Char := cs.map fun c => if c = '\\' then '/' else c

/-- The host and the path of a file's address. A path that starts at a drive needs no host, and a
host that is left empty counts as an empty segment before the path. -/
def filePlace? (cs : List Char) : Option (Host × List Char) := do
  match ((slashed cs).splitOn '/').map Path.unbrokenFile with
  | [] :: [] :: hostChars :: segments =>
    if Path.isDrive hostChars then return (.empty, Path.canonicalFile (hostChars :: segments))
    let host ← if hostChars = [] then some .empty else Host.lookedUp? hostChars
    if host = .empty ∨ host = .name "localhost" then
      return (.empty, Path.canonicalFile ([] :: segments))
    return (if Path.startsAtDrive segments then .empty else host, Path.canonicalFile segments)
  | [] :: segments => return (.empty, Path.canonicalFile segments)
  | segments => return (.empty, Path.canonicalFile segments)

def specialPlace? (shape : Scheme.Shape) (more : Bool) (cs : List Char) :
    Option (Authority × List Char) := do
  let (authority, path) := ((slashed cs).dropWhile (· = '/')).span (· ≠ '/')
  let (authority, _) ← Authority.read? shape (more || path ≠ []) authority
  return (authority, Path.canonical path)

/-- The authority and the path of any other address. Without an authority a path does not start
with two slashes, and a text that is no path stays much as it is. -/
def otherPlace? (more : Bool) : List Char → Option (Option Authority × List Char)
  | '/' :: '/' :: cs => do
    let (authority, path) := splitAt '/' cs
    let (authority, rest) ← Authority.read? .other (more || path ≠ []) authority
    let path := rest ++ path
    return (some authority, if path = [] then [] else Path.canonical path)
  | '/' :: cs =>
    let path := Path.canonical ('/' :: cs)
    some (none, if ['/', '/'].isPrefixOf path then '/' :: '.' :: path else path)
  | cs => some (none, Percent.encode [] cs)

def place? (shape : Scheme.Shape) (more : Bool) (cs : List Char) :
    Option (Option Authority × List Char) :=
  match shape with
  | .file => (filePlace? cs).map fun (host, path) => (some ⟨"", host, none⟩, path)
  | .special _ => (specialPlace? shape more (Path.unbroken cs)).map fun (a, path) => (some a, path)
  | .other => otherPlace? more (Path.unbroken cs)

def parse? (s : String) : Option Url :=
  match splitAt ':' (trimmed s.toList) with
  | (_, []) => none
  | (scheme, _ :: rest) => do
    let scheme ← Scheme.name? (Path.unbroken scheme)
    let shape := Scheme.Shape.ofName scheme
    let (rest, fragment) := splitAt '#' rest
    let (rest, query) := splitAt '?' rest
    let (authority?, path) ← place? shape (query ≠ [] || fragment ≠ []) rest
    return {
      scheme
      authority?
      path := String.ofList path
      query := encodePart shape.queryReserved (Path.unbroken query)
      fragment := encodePart Percent.fragmentReserved (Path.unbroken fragment) }

def isUnsendable (c : Char) : Bool := ['"', '\x60', '\x7b', '\x7d'].contains c

def longest : Nat := 65534

def takesRequests (u : Url) : Bool :=
  (u.scheme == "http" || u.scheme == "https") && u.text.utf8ByteSize ≤ longest &&
    u.authority?.any fun a => !a.host.text.toList.any isUnsendable

end Url
end Overlay.Net
