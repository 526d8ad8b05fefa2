import Overlay.Decimal.Shortest
import Overlay.Json.Document
import Overlay.Text.Quoted
/-!
# What values are decoded from

A value of a known type is decoded from a JSON value or straight from a document. Both show one
layer at a time as a `Shape`. They differ in three ways: the members of a value come in ascending
key order, each key once, while those of a document come as written; a document is evaluated only
where it is read; and only a document can fail to be readable at all.
-/
namespace Overlay.Json

inductive Kind
  | null
  | bool (b : Bool)
  | int (n : Int)
  | double (x : Float)
  | text (s : String)
  | list
  | record

def Kind.describe : Kind → String
  | .null => "null"
  | .bool b => s!"boolean `{b}`"
  | .int n => s!"integer `{n}`"
  | .double x => s!"floating point `{Decimal.text x}`"
  | .text s => s!"string {Text.quoted s}"
  | .list => "sequence"
  | .record => "map"

inductive DecodeError
  | unreadable
  | wrongKind (found : Kind) (expected : String)
  | outOfRange (n : Int) (expected : String)
  | tooShort (count : Nat) (record : String) (fields : Nat)
  | tooLong (count : Nat)
  /-- A list of `count` items is too long for a record of the given number of fields that was read
  through a buffer. -/
  | tooLongBuffered (count fields : Nat)
  | missing (field : String)
  | duplicate (field : String)
  | noOutcome
  | noIdentifier
  | refused (reason : String)

def DecodeError.message : DecodeError → String
  | .unreadable => "unreadable text"
  | .wrongKind found expected => s!"invalid type: {found.describe}, expected {expected}"
  | .outOfRange n expected => s!"invalid value: integer `{n}`, expected {expected}"
  | .tooShort count record fields =>
    let noun := if fields = 1 then "element" else "elements"
    s!"invalid length {count}, expected struct {record} with {fields} {noun}"
  | .tooLong count => s!"invalid length {count}, expected fewer elements in array"
  | .tooLongBuffered count fields =>
    let noun := if fields = 1 then "element" else "elements"
    s!"invalid length {count}, expected {fields} {noun} in sequence"
  | .missing field => s!"missing field `{field}`"
  | .duplicate field => s!"duplicate field `{field}`"
  | .noOutcome => "no variant of enum Outcome found in flattened data"
  | .noIdentifier => "data did not match any variant of untagged enum DpidRepr"
  | .refused reason => reason

inductive Shape (ν : Type)
  | null
  | bool (b : Bool)
  | int (n : Int)
  | double (x : Float)
  | text (s : String)
  | list (items : List ν)
  | record (members : List (String × ν))

def Shape.kind : Shape ν → Kind
  | .null => .null
  | .bool b => .bool b
  | .int n => .int n
  | .double x => .double x
  | .text s => .text s
  | .list _ => .list
  | .record _ => .record

/-- Something that values are decoded from, one layer at a time or as a whole. -/
class Source (ν : Type) where
  shape : ν → Except DecodeError (Shape ν)
  value : ν → Except DecodeError Json

def shape : Json → Shape Json
  | .null => .null
  | .bool b => .bool b
  | .int n => .int n
  | .double x => .double x
  | .str s => .text s
  | .arr items => .list items
  | .obj members => .record (Text.sortKeys members)

instance : Source Json where
  shape v := .ok v.shape
  value v := .ok v

def Number.shape : Number → Shape ν
  | .int n => .int n
  | .double x => .double x

structure Part where
  depth : Nat
  document : Document

def Part.value? (p : Part) : Option Json := p.document.value? p.depth

def Part.shape? (p : Part) : Option (Shape Part) :=
  match p.document, p.depth with
  | .null, _ => some .null
  | .bool b, _ => some (.bool b)
  | .number l, _ => l.value?.map Number.shape
  | .text t, _ => (textOf? t).map .text
  | .list _, 0 => none
  | .list items, depth + 1 => some (.list (items.map (Part.mk depth)))
  | .record _, 0 => none
  | .record members, depth + 1 =>
    (members.mapM fun (k, d) => (textOf? k).map fun k => (k, Part.mk depth d)).map .record

instance : Source Part where
  shape p := match p.shape? with
    | some s => .ok s
    | none => .error .unreadable
  value p := match p.value? with
    | some v => .ok v
    | none => .error .unreadable

def Document.whole (d : Document) : Part := ⟨maxDepth, d⟩

end Overlay.Json
