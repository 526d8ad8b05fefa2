import Overlay.Json.Source
/-!
# Codecs

A codec writes the values of a type as JSON and reads them from any source. Records have a
`Layout`: their fields in declaration order. A record is written as an object and read from an
object or from the list of its fields.

Reading an object looks at its members in the source's order. A known field that occurs again is
an error, and so is the first known field whose value is refused; unknown members are skipped.
Only then is a field without a default missed, the first in declaration order.
-/
namespace Overlay.Json

structure Codec (α : Type) where
  encode : α → Json
  decode : {ν : Type} → [Source ν] → ν → Except DecodeError α

namespace Codec

def readInt [Source ν] (low : Int) (high : Option Int) (name : String) (v : ν) :
    Except DecodeError Int := do
  match ← Source.shape v with
  | .int n => if low ≤ n ∧ high.all (n ≤ ·) then return n else throw (.outOfRange n name)
  | s => throw (.wrongKind s.kind name)

def port : Codec UInt16 where
  encode n := .int n.toNat
  decode v := do return UInt16.ofNat (← readInt 0 (some (UInt16.size - 1)) "u16" v).toNat

def word : Codec UInt64 where
  encode n := .ofWord n
  decode v := do return UInt64.ofNat (← readInt 0 (some (UInt64.size - 1)) "u64" v).toNat

def signedWord : Codec Int64 where
  encode n := .int n.toInt
  decode v := do
    return Int64.ofInt (← readInt Int64.minValue.toInt (some Int64.maxValue.toInt) "i64" v)

def count (name : String) : Codec Nat where
  encode n := .ofNat n
  decode v := do return (← readInt 0 none name v).toNat

def text : Codec String where
  encode s := .str s
  decode v := do
    match ← Source.shape v with
    | .text s => return s
    | s => throw (.wrongKind s.kind "a string")

def any : Codec Json where
  encode v := v
  decode v := Source.value v

def maybe : Codec (Option Json) where
  encode v := v.getD .null
  decode v := do
    match ← Source.value v with
    | .null => return none
    | v => return some v

def list (item : Codec α) : Codec (List α) where
  encode vs := .arr (vs.map item.encode)
  decode v := do
    match ← Source.shape v with
    | .list vs => vs.mapM item.decode
    | s => throw (.wrongKind s.kind "a sequence")

def through (c : Codec α) (wrap : α → β) (unwrap : β → α) : Codec β where
  encode b := c.encode (unwrap b)
  decode v := do return wrap (← c.decode v)

end Codec

/-- The fields of a record of type `ρ`, from which a value of type `α` is built. -/
structure Layout (ρ α : Type) where
  members : ρ → List (String × Json)
  checks : {ν : Type} → [Source ν] → List (String × (ν → Except DecodeError Unit))
  named : {ν : Type} → [Source ν] → List (String × ν) → Except DecodeError α
  placed : {ν : Type} → [Source ν] → DecodeError → List ν → Except DecodeError (α × List ν)

namespace Layout

def field (name : String) (get : ρ → α) (c : Codec α) : Layout ρ α where
  members r := [(name, c.encode (get r))]
  checks := [(name, fun v => do discard (c.decode v))]
  named ms := match ms.lookup name with
    | some v => c.decode v
    | none => throw (.missing name)
  placed short
    | [] => throw short
    | v :: vs => do return (← c.decode v, vs)

/-- A field that may be left out, and is then `default`. It is written unless `omitted` holds. -/
def optional (name : String) (get : ρ → α) (c : Codec α) (default : α)
    (omitted : α → Bool := fun _ => false) : Layout ρ α where
  members r := if omitted (get r) then [] else [(name, c.encode (get r))]
  checks := [(name, fun v => do discard (c.decode v))]
  named ms := match ms.lookup name with
    | some v => c.decode v
    | none => return default
  placed _
    | [] => return (default, [])
    | v :: vs => do return (← c.decode v, vs)

instance : Applicative (Layout ρ) where
  pure a := ⟨fun _ => [], [], fun _ => .ok a, fun _ vs => .ok (a, vs)⟩
  seq f x := {
    members := fun r => f.members r ++ (x ()).members r
    checks := f.checks ++ (x ()).checks
    named := fun ms => do return (← f.named ms) (← (x ()).named ms)
    placed := fun short vs => do
      let (g, vs) ← f.placed short vs
      let (a, vs) ← (x ()).placed short vs
      return (g a, vs) }

/-- Looks at members in order: no known field twice, and each with a value that reads. -/
def visit (checks : List (String × (ν → Except DecodeError Unit))) :
    List String → List (String × ν) → Except DecodeError Unit
  | _, [] => .ok ()
  | seen, (k, v) :: ms =>
    match checks.lookup k with
    | none => visit checks seen ms
    | some check =>
      if k ∈ seen then .error (.duplicate k)
      else do check v; visit checks (k :: seen) ms

def read [Source ν] (l : Layout ρ α) (name : String) (tooLong : Nat → DecodeError) :
    Shape ν → Except DecodeError α
  | .record ms => do
    visit l.checks [] ms
    l.named ms
  | .list vs => do
    let (a, rest) ← l.placed (.tooShort vs.length name (l.checks (ν := ν)).length) vs
    if rest.isEmpty then return a else throw (tooLong vs.length)
  | s => throw (.wrongKind s.kind s!"struct {name}")

def codec (l : Layout α α) (name : String) : Codec α where
  encode a := .obj (l.members a)
  decode v := do l.read name .tooLong (← Source.shape v)

end Layout
end Overlay.Json
