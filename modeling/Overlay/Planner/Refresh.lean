import Overlay.Planner.Session

namespace Overlay.Planner

open Controller Fabric Json Routing

structure SnapshotReport where
  snapshot : UInt64
  switches : Nat
  links : Nat
  deriving DecidableEq, Repr

def SnapshotReport.codec : Codec SnapshotReport :=
  (SnapshotReport.mk <$> .field "snapshot" snapshot .word
    <*> .field "switches" switches (.count "usize") <*> .field "links" links (.count "usize") :
    Layout SnapshotReport SnapshotReport).codec "RefreshTopologyResponse"

def SnapshotReport.ofSnapshot (s : Snapshot) : SnapshotReport :=
  ⟨s.generation, s.topology.switches.length, s.topology.links.length⟩

def refreshTopology (k : Controller σ) : Workflow σ Snapshot := do
  let description ← Workflow.call k .fetchTopology none .getPhysicalTopology
  match Topology.build description with
  | .ok t => Workflow.install t
  | .error cause => throw (.topology cause)

end Overlay.Planner
