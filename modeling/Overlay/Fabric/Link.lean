import Overlay.Fabric.Dpid

namespace Overlay.Fabric

structure Endpoint where
  dpid : Dpid
  port : UInt16
  deriving DecidableEq, Repr

structure Link where
  src : Endpoint
  dst : Endpoint
  deriving DecidableEq, Repr

structure Description where
  switches : List Dpid
  links : List Link
  deriving DecidableEq, Repr

def Endpoint.codec : Json.Codec Endpoint :=
  (Endpoint.mk <$> .field "dpid" dpid Dpid.codec <*> .field "port" port .port :
    Json.Layout Endpoint Endpoint).codec "Endpoint"

namespace Endpoint

instance : LT Endpoint := ⟨fun a b => a.dpid < b.dpid ∨ a.dpid = b.dpid ∧ a.port < b.port⟩

instance (a b : Endpoint) : Decidable (a < b) :=
  inferInstanceAs (Decidable (a.dpid < b.dpid ∨ a.dpid = b.dpid ∧ a.port < b.port))

def text (e : Endpoint) : String := s!"{e.dpid}/{e.port.toNat}"

instance : ToString Endpoint := ⟨text⟩

end Endpoint

namespace Link

def pathText (l : Link) : String := s!"{l.src}-{l.dst}"

def codec : Json.Codec Link :=
  (Link.mk <$> .field "src" src Endpoint.codec <*> .field "dst" dst Endpoint.codec :
    Json.Layout Link Link).codec "Link"

end Link

def Description.codec : Json.Codec Description :=
  (Description.mk <$> .field "switches" switches (.list Dpid.codec)
    <*> .optional "links" links (.list Link.codec) [] :
    Json.Layout Description Description).codec "TopologyDescription"

end Overlay.Fabric
