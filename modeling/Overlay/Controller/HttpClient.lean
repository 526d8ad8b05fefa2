import Overlay.Controller.Basic
import Overlay.JsonRpc.Message
import Overlay.Net.Url
import Overlay.Tenant.Subnet

namespace Overlay.Controller

open Fabric JsonRpc

structure HttpRequest where
  url : String
  message : Request
  deriving Repr

inductive Delivery
  | dropped
  | answered (status : UInt16) (body : ByteArray)

/-- A way to send requests, each of them once. -/
abbrev Transport (τ : Type) := HttpRequest → StateM τ Delivery

def Transport.down : Transport τ := fun _ => return .dropped

structure HttpClient (τ : Type) where
  nextId : UInt64 := 1
  transport : τ

namespace Call

def endpoint : Call → String
  | getPhysicalTopology => "/status"
  | _ => "/tenant"

def tenantMember (t : TenantId) : String × Json := ("tenantId", TenantId.codec.encode t)

def params : Call → Json
  | getPhysicalTopology => .obj []
  | createNetwork protocol host port subnet =>
    let (address, mask) := Tenant.Subnet.split subnet
    .obj [("protocol", .str protocol), ("controllerAddress", .str host),
      ("controllerPort", Json.Codec.port.encode port), ("networkAddress", .str address),
      ("mask", (mask.map Json.ofNat).getD .null)]
  | createSwitch t dpids => .obj [tenantMember t, ("dpids", .arr (dpids.map Dpid.codec.encode))]
  | createLink t path => .obj [tenantMember t, ("path", .str path)]
  | createHost t dpid port mac =>
    .obj [tenantMember t, ("dpid", Dpid.codec.encode dpid),
      ("port", Json.Codec.port.encode port), ("mac", .str mac)]
  | createSwitchRoute t switch route =>
    .obj [tenantMember t, ("vdpid", SwitchId.codec.encode switch),
      ("route", Routing.Route.codec.encode route)]
  | startNetwork t => .obj [tenantMember t]

def request (c : Call) (id : UInt64) : Request where
  method := c.method
  params := c.params
  id := .ofWord id

def readNumber (field : String) (v : Json) : Except BadReply UInt64 :=
  match v.word? <|> (v.member? field).bind Json.word? with
  | some n => .ok n
  | none => .error (.noNumber field v)

def readResult : (c : Call) → Json → Except BadReply c.Reply
  | getPhysicalTopology, v => (Description.codec.decode v).mapError .unreadable
  | createNetwork .., v => (readNumber "tenantId" v).map TenantId.mk
  | createSwitch .., v => (readNumber "vdpid" v).map SwitchId.mk
  | createLink .., _ => .ok ()
  | createHost .., _ => .ok ()
  | createSwitchRoute .., _ => .ok ()
  | startNetwork .., _ => .ok ()

end Call

def readResponse? (body : ByteArray) : Option Response :=
  (Json.Document.ofBytes? body).bind fun d => (Response.codec.decode d.whole).toOption

def readDelivery (c : Call) (url : Net.Url) : Delivery → Except Failure c.Reply
  | .dropped => .error (.unreachable (.noConnection url.text))
  | .answered status body =>
    if status < 200 ∨ 300 ≤ status then .error (.status c.method status)
    else
      match readResponse? body with
      | none => .error (.badReply c.method .noResponse)
      | some r =>
        match r.outcome with
        | .error e => .error (.rejected c.method e)
        | .ok v => (c.readResult v).mapError (.badReply c.method)

namespace HttpClient

def trimBase (base : String) : String :=
  String.ofList ((base.toList.reverse.dropWhile (· = '/')).reverse)

def call (base : String) (post : Transport τ) (c : Call) :
    StateM (HttpClient τ) (Except Failure c.Reply) := fun client =>
  let next := { client with nextId := client.nextId + 1 }
  let address := base ++ c.endpoint
  match Net.Url.parse? address with
  | none => (.error (.unreachable .badAddress), next)
  | some url =>
    if url.takesRequests then
      let (delivery, transport) := post ⟨address, c.request client.nextId⟩ client.transport
      (readDelivery c url delivery, { next with transport })
    else (.error (.unreachable (.badScheme url.text)), next)

def controller (base : String) (post : Transport τ) : Controller (HttpClient τ) where
  answer := call (trimBase base) post

end HttpClient
end Overlay.Controller
