import Overlay.Controller.Call

namespace Overlay.Tenant

open Controller Fabric Json

structure Network where
  type : String
  protocol : String
  controllerAddress : String
  controllerPort : UInt16
  subnet : String
  deriving DecidableEq, Repr

def Network.codec : Codec Network :=
  (Network.mk <$> .field "type" type .text <*> .field "protocol" protocol .text
    <*> .field "controllerAddress" controllerAddress .text
    <*> .field "controllerPort" controllerPort .port <*> .field "subnet" subnet .text :
    Layout Network Network).codec "NetworkSpec"

structure Host where
  dpid : Dpid
  portNumber : UInt16
  mac : String
  deriving DecidableEq, Repr

namespace Host

def codec : Codec Host :=
  (Host.mk <$> .field "dpid" dpid Dpid.codec <*> .field "portNumber" portNumber .port
    <*> .field "mac" mac .text : Layout Host Host).codec "HostSpec"

def port (h : Host) : Endpoint := ⟨h.dpid, h.portNumber⟩

end Host

structure Order where
  network : Network
  hosts : List Host
  deriving DecidableEq, Repr

def Order.codec : Codec Order :=
  (Order.mk <$> .field "network" network Network.codec
    <*> .optional "hosts" hosts (.list Host.codec) [] : Layout Order Order).codec
    "CreateNetworkParams"

structure Summary where
  tenant : TenantId
  mode : String
  switches : List SwitchId
  hosts : Nat
  routes : Nat
  links : Nat
  deriving DecidableEq, Repr

def Summary.codec : Codec Summary :=
  (Summary.mk <$> .field "tenantId" tenant TenantId.codec <*> .field "mode" mode .text
    <*> .field "switchIds" switches (.list SwitchId.codec)
    <*> .field "hosts" hosts (.count "usize") <*> .field "routes" routes (.count "usize")
    <*> .field "links" links (.count "usize") : Layout Summary Summary).codec "NetworkSummary"

end Overlay.Tenant
