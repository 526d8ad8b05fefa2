import Overlay.Planner.Refresh
import Overlay.Tenant.Network
import Overlay.Tenant.Subnet
/-!
# Building a tenant network

The workflow checks the order, fetches the topology and checks the hosts against it, creates the
network, its switches with their routes or links, and its hosts, and starts it. It keeps to the
snapshot that it has fetched, whatever others install. The first failure ends it, and what has been
created until then is left on the controller.
-/
namespace Overlay.Planner

open Controller Fabric Routing Tenant

def bothWays (a : α) : List α → List (α × α)
  | [] => []
  | b :: l => (a, b) :: (b, a) :: bothWays a l

/-- The pairs of two positions of a list, each pair followed by its reverse. -/
def pairs : List α → List (α × α)
  | [] => []
  | a :: l => bothWays a l ++ pairs l

theorem length_bothWays (a : α) (l : List α) : (bothWays a l).length = 2 * l.length := by
  induction l with
  | nil => rfl
  | cons b l ih => simp only [bothWays, List.length_cons, ih]; omega

theorem length_pairs (l : List α) : (pairs l).length = l.length * (l.length - 1) := by
  induction l with
  | nil => rfl
  | cons a l ih =>
    simp only [pairs, List.length_append, length_bothWays, ih, List.length_cons]
    cases l with
    | nil => rfl
    | cons b l =>
      simp only [List.length_cons, Nat.add_sub_cancel]
      grind

structure Build where
  switches : List SwitchId
  routes : Nat
  links : Nat
  deriving DecidableEq, Repr

def sendRoute (k : Controller σ) (tenant : TenantId) (snapshot : Snapshot) (switch : SwitchId)
    (src dst : Host) : Workflow σ Unit := do
  let route ← Workflow.route (some tenant) snapshot src.port dst.port
  Workflow.call k .createSwitchRoute (some tenant) (.createSwitchRoute tenant switch route)

def buildBigSwitch (k : Controller σ) (tenant : TenantId) (snapshot : Snapshot)
    (hosts : List Host) : Workflow σ Build := do
  let switch ← Workflow.call k .createSwitch (some tenant)
    (.createSwitch tenant snapshot.topology.switches)
  let mut routes := 0
  for (src, dst) in pairs hosts do
    sendRoute k tenant snapshot switch src dst
    routes := routes + 1
  return ⟨[switch], routes, 0⟩

def buildPhysical (k : Controller σ) (tenant : TenantId) (snapshot : Snapshot) :
    Workflow σ Build := do
  let switches ← snapshot.topology.switches.mapM fun d =>
    Workflow.call k .createSwitch (some tenant) (.createSwitch tenant [d])
  let mut links := 0
  for l in snapshot.topology.links do
    Workflow.call k .createLink (some tenant) (.createLink tenant l.pathText)
    links := links + 1
  return ⟨switches, 0, links⟩

def build (k : Controller σ) (tenant : TenantId) (snapshot : Snapshot) (hosts : List Host) :
    Mode → Workflow σ Build
  | .bigSwitch => buildBigSwitch k tenant snapshot hosts
  | .physical => buildPhysical k tenant snapshot
  | .custom => throw (.unsupported .custom)

def modeOf (type : String) : Except ProvisioningError Mode :=
  match Mode.parse? type with
  | none => .error (.unknownType type)
  | some .custom => .error (.unsupported .custom)
  | some mode => .ok mode

def checkOrder (o : Order) : Except ProvisioningError Mode := do
  let mode ← modeOf o.network.type
  match Subnet.parse? o.network.subnet with
  | some _ => return mode
  | none => throw (.badRequest (.subnet o.network.subnet))

def checkHosts (t : Topology) (hosts : List Host) : Except ProvisioningError Unit :=
  match hosts.find? (fun h => !t.contains h.dpid) with
  | some h => .error (.badRequest (.unknownSwitch h.mac h.dpid))
  | none => .ok ()

def createNetwork (k : Controller σ) (o : Order) : Workflow σ Summary := do
  let mode ← liftExcept (checkOrder o)
  let snapshot ← refreshTopology k
  liftExcept (checkHosts snapshot.topology o.hosts)
  let n := o.network
  let tenant ← Workflow.call k .createNetwork none
    (.createNetwork n.protocol n.controllerAddress n.controllerPort n.subnet)
  let built ← build k tenant snapshot o.hosts mode
  o.hosts.forM fun h => Workflow.call k .createHost (some tenant)
    (.createHost tenant h.dpid h.portNumber h.mac)
  Workflow.call k .startNetwork (some tenant) (.startNetwork tenant)
  return ⟨tenant, mode.name, built.switches, o.hosts.length, built.routes, built.links⟩

end Overlay.Planner
