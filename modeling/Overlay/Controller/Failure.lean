import Overlay.Controller.Call
import Overlay.Json.Printer
import Overlay.JsonRpc.ErrorObject

namespace Overlay.Controller

inductive Unreachable
  | badAddress
  | badScheme (url : String)
  | noConnection (url : String)
  deriving DecidableEq, Repr

def Unreachable.message : Unreachable → String
  | .badAddress => "builder error"
  | .badScheme url => s!"builder error for url ({url})"
  | .noConnection url => s!"error sending request for url ({url})"

inductive BadReply
  | noResponse
  | noNumber (field : String) (result : Json)
  | unreadable (e : Json.DecodeError)

def BadReply.message : BadReply → String
  | .noResponse => "error decoding response body"
  | .noNumber field result => s!"missing '{field}' in {result.compact}"
  | .unreadable e => e.message

inductive Failure
  | unreachable (cause : Unreachable)
  | status (method : String) (code : UInt16)
  | rejected (method : String) (error : JsonRpc.ErrorObject)
  | badReply (method : String) (fault : BadReply)

def Failure.message : Failure → String
  | .unreachable cause => s!"controller unreachable: {cause.message}"
  | .status method code => s!"controller answered {method} with HTTP {code.toNat}"
  | .rejected method error => s!"controller rejected {method}: {error.text}"
  | .badReply method fault => s!"unexpected controller reply to {method}: {fault.message}"

end Overlay.Controller
