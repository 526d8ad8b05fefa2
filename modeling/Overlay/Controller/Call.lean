import Overlay.Routing.Route

namespace Overlay.Controller

open Fabric Routing

structure TenantId where
  val : UInt64
  deriving DecidableEq, Repr

structure SwitchId where
  val : UInt64
  deriving DecidableEq, Repr

def TenantId.codec : Json.Codec TenantId := .through .word TenantId.mk TenantId.val

def SwitchId.codec : Json.Codec SwitchId := .through .word SwitchId.mk SwitchId.val

instance : ToString TenantId := ⟨fun t => toString t.val.toNat⟩

instance : ToString SwitchId := ⟨fun s => toString s.val.toNat⟩

inductive Call
  | getPhysicalTopology
  | createNetwork (protocol host : String) (port : UInt16) (subnet : String)
  | createSwitch (tenant : TenantId) (dpids : List Dpid)
  | createLink (tenant : TenantId) (path : String)
  | createHost (tenant : TenantId) (dpid : Dpid) (port : UInt16) (mac : String)
  | createSwitchRoute (tenant : TenantId) (switch : SwitchId) (route : Route)
  | startNetwork (tenant : TenantId)
  deriving DecidableEq, Repr

namespace Call

def method : Call → String
  | getPhysicalTopology => "getPhysicalTopology"
  | createNetwork .. => "createNetwork"
  | createSwitch .. => "createSwitch"
  | createLink .. => "createLink"
  | createHost .. => "createHost"
  | createSwitchRoute .. => "createSwitchRoute"
  | startNetwork .. => "startNetwork"

abbrev Reply : Call → Type
  | getPhysicalTopology => Description
  | createNetwork .. => TenantId
  | createSwitch .. => SwitchId
  | createLink .. => Unit
  | createHost .. => Unit
  | createSwitchRoute .. => Unit
  | startNetwork .. => Unit

end Call
end Overlay.Controller
