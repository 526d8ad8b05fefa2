import Overlay.Controller.Basic
import Overlay.Routing.Snapshot
import Overlay.Tenant.ProvisioningError
/-!
# Sessions

A planner works with one controller and one snapshot store, and keeps a log of its exchanges with
the controller, the earliest first. A workflow is a run over this state that may end with an error;
what it did before the error stays done.
-/
namespace Overlay.Planner

open Controller Fabric Routing Tenant

structure Session (σ : Type) where
  controller : σ
  store : SnapshotStore := {}
  log : List Exchange := []

abbrev Workflow (σ : Type) := ExceptT ProvisioningError (StateM (Session σ))

/-- Runs one call and takes over what others install meanwhile. -/
def Session.call (k : Controller σ) (c : Call) : StateM (Session σ) (Except Failure c.Reply) :=
  fun s =>
    let (reply, controller) := k.answer c s.controller
    let installed := k.meanwhile c s.controller
    (reply, {
      controller
      store := installed.foldl (fun store t => (store.install t).2) s.store
      log := s.log ++ [⟨c, reply⟩] })

@[simp] theorem Session.call_log (k : Controller σ) (c : Call) (s : Session σ) :
    (Session.call k c s).2.log = s.log ++ [⟨c, (Session.call k c s).1⟩] := rfl

def Session.onStore (m : StateM SnapshotStore α) : StateM (Session σ) α := fun s =>
  let (a, store) := m.run s.store
  (a, { s with store })

namespace Workflow

/-- Runs a call, whose failure ends the workflow as one of the given stage, with the tenant network
that is there by then. -/
def call (k : Controller σ) (stage : Stage) (tenant? : Option TenantId) (c : Call) :
    Workflow σ c.Reply :=
  ExceptT.mk (Except.mapError (.controller stage tenant?) <$> Session.call k c)

def route (tenant? : Option TenantId) (snapshot : Snapshot) (entry exit : Endpoint) :
    Workflow σ Route :=
  ExceptT.mk (Except.mapError (.route tenant?) <$>
    Session.onStore (SnapshotStore.route snapshot entry exit))

def install (t : Topology) : Workflow σ Snapshot :=
  ExceptT.lift (Session.onStore (SnapshotStore.install t))

end Workflow
end Overlay.Planner
