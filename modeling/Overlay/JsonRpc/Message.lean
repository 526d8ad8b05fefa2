import Overlay.JsonRpc.ErrorObject

namespace Overlay.JsonRpc

def version : String := "2.0"

structure Request where
  jsonrpc : String := version
  method : String
  params : Json
  id : Json
  deriving Repr, BEq

def Request.codec : Json.Codec Request :=
  (Request.mk <$> .field "jsonrpc" jsonrpc .text <*> .field "method" method .text
    <*> .optional "params" params .any .null (· matches .null)
    <*> .optional "id" id .any .null : Json.Layout Request Request).codec "Request"

structure Response where
  jsonrpc : String := version
  id : Json
  outcome : Except ErrorObject Json

namespace Response

def result (id v : Json) : Response := { id, outcome := .ok v }

def error (id : Json) (e : ErrorObject) : Response := { id, outcome := .error e }

def isError (r : Response) : Bool := r.outcome matches .error _

def header : Json.Layout Response (String × Json) :=
  Prod.mk <$> .field "jsonrpc" jsonrpc .text <*> .optional "id" id .any .null

def outcomeOf? [Json.Source ν] :
    String × ν → Option (Except Json.DecodeError (Except ErrorObject Json))
  | ("result", v) => some do return .ok (← Json.Source.value v)
  | ("error", v) => some do
    return .error (← ErrorObject.layout.read "RpcError" (.tooLongBuffered · 3)
      (← Json.Source.shape v))
  | _ => none

def inHeader : String → Bool
  | "jsonrpc" | "id" => true
  | _ => false

def decode [Json.Source ν] (v : ν) : Except Json.DecodeError Response := do
  match ← Json.Source.shape v with
  | .record ms =>
    let rest := ms.filter fun m => !inHeader m.1
    Json.Layout.visit header.checks [] ms
    for m in rest do discard (Json.Source.value m.2)
    let (jsonrpc, id) ← header.named ms
    let outcome ← (rest.findSome? outcomeOf?).getD (throw .noOutcome)
    return ⟨jsonrpc, id, outcome⟩
  | s => throw (.wrongKind s.kind "struct Response")

def codec : Json.Codec Response where
  encode r := .obj [("jsonrpc", .str r.jsonrpc), ("id", r.id),
    match r.outcome with
    | .ok v => ("result", v)
    | .error e => ("error", ErrorObject.codec.encode e)]
  decode := decode

end Response
end Overlay.JsonRpc
