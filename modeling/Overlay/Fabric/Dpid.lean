import Overlay.Json.Codec
import Overlay.Text.Blank
import Overlay.Text.Numeral

namespace Overlay.Fabric

structure Dpid where
  val : UInt64
  deriving DecidableEq, Repr

structure DpidError where
  text : String
  cause : Option Text.NumeralError
  deriving DecidableEq, Repr

def DpidError.message (e : DpidError) : String :=
  match e.cause with
  | none => s!"invalid dpid '{e.text}'"
  | some cause => s!"invalid dpid '{e.text}': {cause.message}"

namespace Dpid

instance : LT Dpid := ⟨fun a b => a.val < b.val⟩

instance (a b : Dpid) : Decidable (a < b) := inferInstanceAs (Decidable (a.val < b.val))

def text (d : Dpid) : String := toString d.val.toNat

instance : ToString Dpid := ⟨text⟩

/-- The numeral that a trimmed text stands for; `none` if its colons leave nothing or too much. -/
def numeral? (cs : List Char) : Option (Except Text.NumeralError Nat) :=
  if ':' ∈ cs then
    let hex := cs.filter (· ≠ ':')
    if hex = [] ∨ 16 < (String.ofList hex).utf8ByteSize then none
    else some (Text.numeral 16 UInt64.size hex)
  else some (Text.numeral 10 UInt64.size cs)

def parse (s : String) : Except DpidError Dpid :=
  let cs := Text.trimBlank s.toList
  match numeral? cs with
  | none => .error ⟨String.ofList cs, none⟩
  | some (.error e) => .error ⟨String.ofList cs, some e⟩
  | some (.ok n) => .ok ⟨UInt64.ofNat n⟩

def codec : Json.Codec Dpid where
  encode d := .ofWord d.val
  decode v := do
    let v ← Json.Source.value v
    match v.word?, v.text? with
    | some n, _ => return ⟨n⟩
    | none, some s =>
      match parse s with
      | .ok d => return d
      | .error e => throw (.refused e.message)
    | none, none => throw .noIdentifier

end Dpid
end Overlay.Fabric
