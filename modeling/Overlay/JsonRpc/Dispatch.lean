import Overlay.Json.Document
import Overlay.JsonRpc.Message
import Overlay.JsonRpc.Methods
import Overlay.Text.Blank
import Overlay.Text.Numeral
/-!
# Dispatch

A message passes checks in a fixed order: the declared length, the JSON text, the shape of the
request, the name of the method. The first check that fails decides the answer, and no handler
runs. A request that passes all of them runs one handler once. From the moment its object is known
the id of the request is in every answer.
-/
namespace Overlay.JsonRpc

inductive Refusal
  | badLength
  | noLength
  | truncated
  | notJson
  | notObject
  | wrongVersion
  | badMethod
  | noMethod
  | badParams
  | unknownMethod (name : String)
  deriving DecidableEq, Repr

def Refusal.error : Refusal → ErrorObject
  | .badLength => .parseError "Invalid Content-Length"
  | .noLength => .parseError "Missing Content-Length"
  | .truncated => .parseError "Truncated request body"
  | .notJson => .parseError "Error parsing JSON request"
  | .notObject => .invalidRequest "Request must be a JSON object"
  | .wrongVersion => .invalidRequest "Unsupported jsonrpc version"
  | .badMethod => .invalidRequest "Method must be a string"
  | .noMethod => .invalidRequest "Missing method"
  | .badParams => .invalidRequest "Params must be an object or an array"
  | .unknownMethod name => .methodNotFound name

structure Envelope where
  id : Json
  method : String
  params : Json
  deriving Repr

namespace Envelope

def idOf (v : Json) : Json := (v.member? "id").getD .null

def checkVersion (v : Json) : Except Refusal Unit :=
  match v.member? "jsonrpc" with
  | none => .ok ()
  | some (.str s) => if s = version then .ok () else .error .wrongVersion
  | some _ => .error .wrongVersion

def methodOf (v : Json) : Except Refusal String :=
  match v.member? "method" with
  | some (.str name) => .ok name
  | some _ => .error .badMethod
  | none => .error .noMethod

def paramsOf (v : Json) : Except Refusal Json :=
  match v.member? "params" with
  | none | some .null => .ok (.obj [])
  | some (.obj ms) => .ok (.obj ms)
  | some (.arr vs) => .ok (.arr vs)
  | some _ => .error .badParams

def ofJson (v : Json) : Except Refusal Envelope :=
  match v with
  | .obj _ => do
    checkVersion v
    let method ← methodOf v
    let params ← paramsOf v
    return ⟨idOf v, method, params⟩
  | _ => .error .notObject

end Envelope

namespace Methods

def respond (e : Envelope) : Completion → Response
  | .result v => .result e.id v
  | .failure err => .error e.id err
  | .aborted => .error e.id (.internal s!"Handler for '{e.method}' failed unexpectedly")

def answer (ms : Methods σ) (v : Json) : StateM σ Response :=
  match Envelope.ofJson v with
  | .error r => return .error (Envelope.idOf v) r.error
  | .ok e =>
    match ms.find? e.method with
    | none => return .error e.id (Refusal.unknownMethod e.method).error
    | some handler => do return respond e (← handler e.id e.params)

def answerBytes (ms : Methods σ) (body : ByteArray) : StateM σ Response :=
  match Json.ofBytes? body with
  | none => return .error .null Refusal.notJson.error
  | some v => ms.answer v

def declaredPart (length : Option String) (body : ByteArray) : Except Refusal ByteArray :=
  match length with
  | none => .error .noLength
  | some s =>
    match Text.numeral 10 UInt64.size (Text.trimBlank s.toList) with
    | .error _ => .error .badLength
    | .ok n => if body.size < n then .error .truncated else .ok (body.extract 0 n)

/-- Answers a message of a declared length; what follows in the body is not looked at. -/
def answerSized (ms : Methods σ) (length : Option String) (body : ByteArray) :
    StateM σ Response :=
  match declaredPart length body with
  | .error r => return .error .null r.error
  | .ok part => ms.answerBytes part

end Methods
end Overlay.JsonRpc
