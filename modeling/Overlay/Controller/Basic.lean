import Overlay.Controller.Failure
import Overlay.Fabric.Topology

namespace Overlay

open Fabric

structure Controller (σ : Type) where
  answer : (c : Controller.Call) → StateM σ (Except Controller.Failure c.Reply)
  /-- The topologies that others install while a call is under way, from the state before it. -/
  meanwhile : Controller.Call → σ → List Topology := fun _ _ => []

namespace Controller

structure Exchange where
  call : Call
  reply : Except Failure call.Reply

end Controller
end Overlay
