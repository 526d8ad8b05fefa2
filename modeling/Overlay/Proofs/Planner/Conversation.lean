import Overlay.Planner.RoutePlan
import Overlay.Proofs.Planner.Provision
/-!
# Conversations with a controller

A property of sessions that calls, routes and installations keep is kept by whole workflows, whether
they end well or not. One such property is that the log goes on as a conversation: each reply in it
is the one that the controller gives in the state that the exchanges before have brought it to.
-/
namespace Overlay

namespace Controller

/-- The exchanges with a controller on its way from one state to another. -/
inductive Replies (k : Controller σ) : σ → List Exchange → σ → Prop
  | nil : Replies k c [] c
  | cons (call : Call) : Replies k (k.answer call c).2 trace c' →
    Replies k c (⟨call, (k.answer call c).1⟩ :: trace) c'

namespace Replies

variable {k : Controller σ} {c c' : σ} {trace : List Exchange}

theorem concat (h : Replies k c trace c') (call : Call) :
    Replies k c (trace ++ [⟨call, (k.answer call c').1⟩]) (k.answer call c').2 := by
  induction h with
  | nil => exact .cons call .nil
  | cons first _ ih => exact .cons first ih

theorem head {x : Exchange} (h : Replies k c (x :: trace) c') :
    x.reply = (k.answer x.call c).1 := by
  cases h
  rfl

theorem tail {x : Exchange} (h : Replies k c (x :: trace) c') :
    Replies k (k.answer x.call c).2 trace c' := by
  cases h with
  | cons _ h => exact h

theorem mem {x : Exchange} (h : Replies k c trace c') (hx : x ∈ trace) :
    ∃ c, x.reply = (k.answer x.call c).1 := by
  induction h with
  | nil => cases hx
  | @cons c trace _ call _ ih =>
    cases hx with
    | head => exact ⟨c, rfl⟩
    | tail _ hx => exact ih hx

end Replies
end Controller

namespace Planner

open Controller Fabric Routing Tenant

/-- A property of sessions that does not end with a call, unless it is for the topology, or with the
search for a route. -/
structure Kept (k : Controller σ) (I : Session σ → Prop) : Prop where
  call : ∀ c, c ≠ .getPhysicalTopology → ∀ s, I s → I (Session.call k c s).2
  route : ∀ snapshot entry exit s, I s →
    I (Session.onStore (SnapshotStore.route snapshot entry exit) s).2

namespace Workflow

def Preserves (I : Session σ → Prop) (w : Workflow σ α) : Prop :=
  ∀ s, I s → I (w.run.run s).2

namespace Preserves

variable {I : Session σ → Prop} {w : Workflow σ α} {next : α → Workflow σ β}

theorem pure (a : α) : Preserves I (Pure.pure a : Workflow σ α) := fun _ hs => hs

theorem ofExcept (r : Except ProvisioningError α) : Preserves I (liftExcept r) := by
  intro s hs
  rw [run_liftExcept]
  exact hs

theorem bind (hw : Preserves I w) (hnext : ∀ a, Preserves I (next a)) :
    Preserves I (w >>= next) := by
  intro s hs
  have hmiddle := hw s hs
  rw [run_bind]
  rcases hreply : w.run.run s with ⟨_ | a, s'⟩
  · rwa [hreply] at hmiddle
  · rw [hreply] at hmiddle
    exact hnext a s' hmiddle

theorem get : Preserves I (MonadState.get : Workflow σ (Session σ)) := fun _ hs => hs

theorem forM {g : α → Workflow σ PUnit} (l : List α) (h : ∀ a, Preserves I (g a)) :
    Preserves I (l.forM g) := by
  induction l with
  | nil => exact .pure ()
  | cons a l ih => exact .bind (h a) fun _ => ih

theorem mapM (l : List α) (h : ∀ a, Preserves I (next a)) : Preserves I (l.mapM next) := by
  induction l with
  | nil => exact .pure []
  | cons a l ih =>
    rw [List.mapM_cons]
    exact .bind (h a) fun b => .bind ih fun _ => .pure _

end Preserves
end Workflow

def carryOut (k : Controller σ) (o : Order) (mode : Mode) (snapshot : Snapshot) :
    Workflow σ Summary := do
  liftExcept (checkHosts snapshot.topology o.hosts)
  let n := o.network
  let tenant ← Workflow.call k .createNetwork none
    (.createNetwork n.protocol n.controllerAddress n.controllerPort n.subnet)
  let built ← build k tenant snapshot o.hosts mode
  o.hosts.forM fun h => Workflow.call k .createHost (some tenant)
    (.createHost tenant h.dpid h.portNumber h.mac)
  Workflow.call k .startNetwork (some tenant) (.startNetwork tenant)
  return ⟨tenant, mode.name, built.switches, o.hosts.length, built.routes, built.links⟩

theorem createNetwork_eq (k : Controller σ) (o : Order) :
    createNetwork k o = (do
      let mode ← liftExcept (checkOrder o)
      let snapshot ← refreshTopology k
      carryOut k o mode snapshot) := rfl

section

open Workflow

variable {k : Controller σ} {I : Session σ → Prop} (hkept : Kept k I)
include hkept

theorem call_preserves {c : Call} {stage : Stage} {tenant? : Option TenantId}
    (hc : c ≠ .getPhysicalTopology) : Preserves I (Workflow.call k stage tenant? c) :=
  fun s hs => hkept.call c hc s hs

theorem route_preserves (tenant? : Option TenantId) (snapshot : Snapshot)
    (entry exit : Endpoint) : Preserves I (Workflow.route tenant? snapshot entry exit) :=
  fun s hs => hkept.route snapshot entry exit s hs

theorem build_preserves (tenant : TenantId) (snapshot : Snapshot) (hosts : List Host)
    (mode : Mode) : Preserves I (build k tenant snapshot hosts mode) := by
  cases mode with
  | bigSwitch =>
    rw [build, buildBigSwitch_eq]
    refine .bind (call_preserves hkept nofun) fun switch => .bind (.forM _ ?_) fun _ => .pure _
    rintro ⟨src, dst⟩
    exact .bind (route_preserves hkept _ _ _ _) fun _ => call_preserves hkept nofun
  | physical =>
    rw [build, buildPhysical_eq]
    refine .bind (.mapM _ fun d => call_preserves hkept nofun) fun switches => ?_
    exact .bind (.forM _ fun l => call_preserves hkept nofun) fun _ => .pure _
  | custom => exact .ofExcept (.error _)

theorem carryOut_preserves (o : Order) (mode : Mode) (snapshot : Snapshot) :
    Preserves I (carryOut k o mode snapshot) := by
  refine .bind (.ofExcept _) fun _ => .bind (call_preserves hkept nofun) fun tenant => ?_
  refine .bind (build_preserves hkept tenant snapshot o.hosts mode) fun built => ?_
  refine .bind (.forM _ fun h => call_preserves hkept nofun) fun _ => ?_
  exact .bind (call_preserves hkept nofun) fun _ => .pure _

variable (hrefresh : Preserves I (refreshTopology k))
include hrefresh

theorem createNetwork_preserves (o : Order) : Preserves I (createNetwork k o) := by
  rw [createNetwork_eq]
  refine .bind (.ofExcept _) fun mode => .bind hrefresh fun snapshot => ?_
  exact carryOut_preserves hkept o mode snapshot

theorem planRoute_preserves (r : RouteRequest) : Preserves I (planRoute k r) := by
  refine .bind (.bind .get fun s => ?_) fun snapshot => ?_
  · cases s.store.current? with
    | none => exact hrefresh
    | some snapshot => exact .pure snapshot
  · exact .bind (route_preserves hkept _ _ _ _) fun _ => .pure _

end

theorem refreshTopology_preserves {k : Controller σ} {I : Session σ → Prop}
    (hcall : ∀ s, I s → I (Session.call k .getPhysicalTopology s).2)
    (hinstall : ∀ t s, I s → I (Session.onStore (SnapshotStore.install t) s).2) :
    Workflow.Preserves I (refreshTopology k) := by
  refine .bind (fun s hs => hcall s hs) fun d => ?_
  cases Topology.build d with
  | error cause => exact .ofExcept (.error _)
  | ok t => exact fun s hs => hinstall t s hs

def Session.GoesOn (k : Controller σ) (start s : Session σ) : Prop :=
  ∃ trace, s.log = start.log ++ trace ∧ Replies k start.controller trace s.controller

variable (k : Controller σ)

theorem Session.GoesOn.refl (s : Session σ) : Session.GoesOn k s s :=
  ⟨[], (List.append_nil _).symm, .nil⟩

theorem Session.GoesOn.call {start s : Session σ} (h : Session.GoesOn k start s) (c : Call) :
    Session.GoesOn k start (Session.call k c s).2 := by
  obtain ⟨trace, hlog, hreplies⟩ := h
  refine ⟨_, ?_, hreplies.concat c⟩
  rw [Session.call_log, hlog, List.append_assoc]
  rfl

theorem Session.goesOn_kept (start : Session σ) : Kept k (Session.GoesOn k start) where
  call c _ _ hs := hs.call k c
  route _ _ _ _ hs := hs

theorem refreshTopology_replies (start : Session σ) :
    Workflow.Preserves (Session.GoesOn k start) (refreshTopology k) :=
  refreshTopology_preserves (fun _ hs => hs.call k _) fun _ _ hs => hs

theorem createNetwork_replies (o : Order) (s : Session σ) :
    Session.GoesOn k s ((createNetwork k o).run.run s).2 :=
  createNetwork_preserves (Session.goesOn_kept k s) (refreshTopology_replies k s) o s (.refl k s)

theorem createNetwork_converses (o : Order) {s : Session σ} (hs : s.Orderly) :
    ∃ trace, ((createNetwork k o).run.run s).2.log = s.log ++ trace ∧
      Replies k s.controller trace ((createNetwork k o).run.run s).2.controller ∧
      (Plan.network o).Runs trace ((createNetwork k o).run.run s).1 := by
  obtain ⟨-, trace, hlog, hrun⟩ := createNetwork_follows k o s hs
  obtain ⟨more, hmore, hreplies⟩ := createNetwork_replies k o s
  obtain rfl := List.append_cancel_left (hmore.symm.trans hlog)
  exact ⟨more, hlog, hreplies, hrun⟩

end Planner
end Overlay
