import Overlay.JsonRpc.Message
import Overlay.Planner.RoutePlan
import Overlay.Proofs.Fabric.DpidText
import Overlay.Proofs.Json.Forms
import Overlay.Tenant.Network

namespace Overlay

open Json Json.Layout

namespace Fabric

inductive Dpid.Form (d : Dpid) : Json → Prop
  | number : Form d (.ofWord d.val)
  | decimal : Text.IsNumeral 10 t d.val.toNat → Form d (.str (String.ofList t))
  | groups : InGroups t d → Form d (.str (String.ofList t))

def Endpoint.Form (e : Endpoint) : Json → Prop :=
  RecordForm [.field "dpid" e.dpid.Form, .field "port" (· = .int e.port.toNat)]

def Link.Form (l : Link) : Json → Prop :=
  RecordForm [.field "src" l.src.Form, .field "dst" l.dst.Form]

def Description.Form (d : Description) : Json → Prop :=
  RecordForm [.field "switches" (ListForm Dpid.Form d.switches),
    .optional "links" (ListForm Link.Form d.links) (d.links = [])]

theorem Dpid.faithful : Dpid.codec.Faithful Dpid.Form where
  encode _ := .number
  decode h := by
    have hread {t : List Char} {d : Dpid} (h : Names t d) :
        codec.decode (Json.str (String.ofList t)) = .ok d := by
      have hparse : parse (String.ofList ([] ++ t ++ [])) = .ok d := parse_of_names h nofun nofun
      rw [List.nil_append, List.append_nil] at hparse
      exact decode_str hparse
    cases h with
    | number => exact decode_word _
    | decimal hnumeral => exact hread (names_of_isNumeral hnumeral)
    | groups hgroups => exact hread (names_of_inGroups hgroups)

theorem Endpoint.faithful : Endpoint.codec.Faithful Endpoint.Form :=
  faithful_record "Endpoint"
    (((describes_field Dpid.faithful).map Endpoint.mk).seq (describes_field faithful_port))
    fun _ => by simp

theorem Link.faithful : Link.codec.Faithful Link.Form :=
  faithful_record "Link"
    (((describes_field Endpoint.faithful).map Link.mk).seq (describes_field Endpoint.faithful))
    fun _ => by simp

theorem Description.faithful : Description.codec.Faithful Description.Form :=
  faithful_record "TopologyDescription"
    (((describes_field (faithful_list Dpid.faithful)).map Description.mk).seq
      (describes_optional (faithful_list Link.faithful) nofun))
    fun _ => by simp

end Fabric

namespace Routing

open Fabric

def Hop.Form (h : Hop) : Json → Prop :=
  RecordForm [.field "inPort" (· = .int h.inPort.toNat), .field "dpid" h.dpid.Form,
    .field "outPort" (· = .int h.outPort.toNat)]

def Route.Form : Route → Json → Prop := ListForm Hop.Form

theorem Hop.faithful : Hop.codec.Faithful Hop.Form :=
  faithful_record "Hop"
    ((((describes_field faithful_port).map Hop.mk).seq (describes_field Dpid.faithful)).seq
      (describes_field faithful_port))
    fun _ => by simp

theorem Route.faithful : Route.codec.Faithful Route.Form := faithful_list Hop.faithful

end Routing

namespace Tenant

open Fabric

def Host.Form (h : Host) : Json → Prop :=
  RecordForm [.field "dpid" h.dpid.Form, .field "portNumber" (· = .int h.portNumber.toNat),
    .field "mac" (· = .str h.mac)]

def Network.Form (n : Network) : Json → Prop :=
  RecordForm [.field "type" (· = .str n.type), .field "protocol" (· = .str n.protocol),
    .field "controllerAddress" (· = .str n.controllerAddress),
    .field "controllerPort" (· = .int n.controllerPort.toNat), .field "subnet" (· = .str n.subnet)]

def Order.Form (o : Order) : Json → Prop :=
  RecordForm [.field "network" o.network.Form,
    .optional "hosts" (ListForm Host.Form o.hosts) (o.hosts = [])]

def Summary.Form (s : Summary) : Json → Prop :=
  RecordForm [.field "tenantId" (· = .ofWord s.tenant.val), .field "mode" (· = .str s.mode),
    .field "switchIds" (ListForm (fun id v => v = .ofWord id.val) s.switches),
    .field "hosts" (· = .ofNat s.hosts), .field "routes" (· = .ofNat s.routes),
    .field "links" (· = .ofNat s.links)]

theorem Host.faithful : Host.codec.Faithful Host.Form :=
  faithful_record "HostSpec"
    ((((describes_field Dpid.faithful).map Host.mk).seq (describes_field faithful_port)).seq
      (describes_field faithful_text))
    fun _ => by simp

theorem Network.faithful : Network.codec.Faithful Network.Form :=
  faithful_record "NetworkSpec"
    ((((((describes_field faithful_text).map Network.mk).seq (describes_field faithful_text)).seq
      (describes_field faithful_text)).seq (describes_field faithful_port)).seq
      (describes_field faithful_text))
    fun _ => by simp

theorem Order.faithful : Order.codec.Faithful Order.Form :=
  faithful_record "CreateNetworkParams"
    (((describes_field Network.faithful).map Order.mk).seq
      (describes_optional (faithful_list Host.faithful) nofun))
    fun _ => by simp

theorem Summary.faithful : Summary.codec.Faithful Summary.Form :=
  faithful_record "NetworkSummary"
    (((((((describes_field (faithful_through faithful_word fun _ => rfl)).map Summary.mk).seq
      (describes_field faithful_text)).seq
      (describes_field (faithful_list (faithful_through faithful_word fun _ => rfl)))).seq
      (describes_field (faithful_count "usize"))).seq
      (describes_field (faithful_count "usize"))).seq
      (describes_field (faithful_count "usize")))
    fun _ => by simp

end Tenant

namespace Planner

open Fabric Routing

def RouteRequest.Form (r : RouteRequest) : Json → Prop :=
  RecordForm [.field "dpidIn" r.dpidIn.Form, .field "portIn" (· = .int r.portIn.toNat),
    .field "dpidOut" r.dpidOut.Form, .field "portOut" (· = .int r.portOut.toNat)]

def RoutePlan.Form (p : RoutePlan) : Json → Prop :=
  RecordForm [.field "snapshot" (· = .ofWord p.snapshot),
    .field "route" (Route.Form p.route)]

def SnapshotReport.Form (r : SnapshotReport) : Json → Prop :=
  RecordForm [.field "snapshot" (· = .ofWord r.snapshot),
    .field "switches" (· = .ofNat r.switches), .field "links" (· = .ofNat r.links)]

theorem RouteRequest.faithful : RouteRequest.codec.Faithful RouteRequest.Form :=
  faithful_record "GetRouteParams"
    (((((describes_field Dpid.faithful).map RouteRequest.mk).seq
      (describes_field faithful_port)).seq (describes_field Dpid.faithful)).seq
      (describes_field faithful_port))
    fun _ => by simp

theorem RoutePlan.faithful : RoutePlan.codec.Faithful RoutePlan.Form :=
  faithful_record "GetRouteResponse"
    (((describes_field faithful_word).map RoutePlan.mk).seq
      (describes_field Route.faithful))
    fun _ => by simp

theorem SnapshotReport.faithful : SnapshotReport.codec.Faithful SnapshotReport.Form :=
  faithful_record "RefreshTopologyResponse"
    ((((describes_field faithful_word).map SnapshotReport.mk).seq
      (describes_field (faithful_count "usize"))).seq (describes_field (faithful_count "usize")))
    fun _ => by simp

end Planner

namespace JsonRpc

def Request.Form (r : Request) : Json → Prop :=
  RecordForm [.field "jsonrpc" (· = .str r.jsonrpc), .field "method" (· = .str r.method),
    .optional "params" (· = r.params) (r.params = .null), .optional "id" (· = r.id) (r.id = .null)]

theorem Request.faithful : Request.codec.Faithful Request.Form :=
  faithful_record "Request"
    (((((describes_field faithful_text).map Request.mk).seq (describes_field faithful_text)).seq
      (describes_optional faithful_any fun v hv => by cases v <;> simp at hv ⊢)).seq
      (describes_optional faithful_any nofun))
    fun _ => by simp

end JsonRpc

open Fabric Routing Tenant Planner JsonRpc

/-- Every message, and every part of one, is written in one of its forms and read from all of
them. -/
theorem messages_faithful :
    Endpoint.codec.Faithful Endpoint.Form ∧ Link.codec.Faithful Link.Form ∧
    Description.codec.Faithful Description.Form ∧
    Hop.codec.Faithful Hop.Form ∧ Route.codec.Faithful Route.Form ∧
    Host.codec.Faithful Host.Form ∧ Network.codec.Faithful Network.Form ∧
    Order.codec.Faithful Order.Form ∧
    RouteRequest.codec.Faithful RouteRequest.Form ∧ RoutePlan.codec.Faithful RoutePlan.Form ∧
    SnapshotReport.codec.Faithful SnapshotReport.Form ∧ Summary.codec.Faithful Summary.Form ∧
    Request.codec.Faithful Request.Form :=
  ⟨Endpoint.faithful, Link.faithful, Description.faithful, Hop.faithful, Route.faithful,
    Host.faithful, Network.faithful, Order.faithful, RouteRequest.faithful, RoutePlan.faithful,
    SnapshotReport.faithful, Summary.faithful, Request.faithful⟩

example : Link.codec.decode (Json.arr
    [.obj [("port", .int 1), ("name", .null), ("dpid", .str "00:00:00:00:00:00:00:0A")],
      .arr [.str "2", .int 3]]) = .ok ⟨⟨⟨10⟩, 1⟩, ⟨⟨2⟩, 3⟩⟩ := by
  rfl

end Overlay
