import Overlay.JsonRpc.Dispatch

namespace Overlay.JsonRpc

structure Header where
  name : String
  value : ByteArray

structure Reply where
  status : Nat
  contentType : String
  response : Response

namespace Header

def named (name : String) (h : Header) : Bool := h.name.toLower == name.toLower

def isPlain (b : UInt8) : Bool := b == 9 || (0x20 ≤ b && b < 0x7F)

def text? (h : Header) : Option String :=
  let bytes := h.value.data.toList
  if bytes.all isPlain then some (String.ofList (bytes.map fun b => Char.ofNat b.toNat)) else none

end Header

def declaredLength? (headers : List Header) : Option String :=
  (headers.find? (·.named "content-length")).bind Header.text?

def Methods.post (ms : Methods σ) (headers : List Header) (body : ByteArray) :
    StateM σ Reply := do
  return ⟨200, "application/json", ← ms.answerSized (declaredLength? headers) body⟩

end Overlay.JsonRpc
