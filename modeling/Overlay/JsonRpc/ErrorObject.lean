import Overlay.Json.Codec

namespace Overlay.JsonRpc

structure ErrorObject where
  code : Int64
  message : String
  data : Option Json := none
  deriving Repr, BEq

namespace ErrorObject

def parseError (message : String) : ErrorObject := { code := -32700, message }

def invalidRequest (message : String) : ErrorObject := { code := -32600, message }

def methodNotFound (method : String) : ErrorObject where
  code := -32601
  message := "Method not found"
  data := some (.str method)

def invalidParams (message : String) : ErrorObject := { code := -32602, message }

def internal (message : String) : ErrorObject := { code := -32603, message }

def withData (e : ErrorObject) (data : Json) : ErrorObject := { e with data := some data }

def text (e : ErrorObject) : String := s!"[{e.code.toInt}] {e.message}"

def layout : Json.Layout ErrorObject ErrorObject :=
  ErrorObject.mk <$> .field "code" code .signedWord <*> .field "message" message .text
    <*> .optional "data" data .maybe none Option.isNone

def codec : Json.Codec ErrorObject := layout.codec "RpcError"

end ErrorObject
end Overlay.JsonRpc
