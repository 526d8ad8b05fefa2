import Overlay.Proofs.Planner.Conversation
import Overlay.Proofs.Planner.Report

namespace Overlay.Planner

open Controller Fabric JsonRpc Routing Tenant

section

variable (k : Controller σ) (s : Session σ)

def Session.asked : Session σ := (Session.call k .getPhysicalTopology s).2

inductive Refreshed : Except ProvisioningError Snapshot → Session σ → Prop
  | unfetched : (s.asked k).log = s.log ++ [⟨.getPhysicalTopology, .error f⟩] →
    Refreshed (.error (.controller .fetchTopology none f)) (s.asked k)
  | malformed : (s.asked k).log = s.log ++ [⟨.getPhysicalTopology, .ok d⟩] →
    Topology.build d = .error cause → Refreshed (.error (.topology cause)) (s.asked k)
  | installed : (s.asked k).log = s.log ++ [⟨.getPhysicalTopology, .ok d⟩] →
    Topology.build d = .ok t → Refreshed (.ok ((s.asked k).store.install t).1)
      (Session.onStore (SnapshotStore.install t) (s.asked k)).2

theorem refreshed :
    Refreshed k s ((refreshTopology k).run.run s).1 ((refreshTopology k).run.run s).2 := by
  have hlog : (s.asked k).log = s.log ++
      [⟨.getPhysicalTopology, (k.answer .getPhysicalTopology s.controller).1⟩] := rfl
  have hcall : (Workflow.call k .fetchTopology none .getPhysicalTopology).run.run s =
      ((k.answer .getPhysicalTopology s.controller).1.mapError
        (.controller .fetchTopology none), s.asked k) := rfl
  rw [refreshTopology, run_bind, hcall]
  cases hreply : (k.answer .getPhysicalTopology s.controller).1 with
  | error f =>
    rw [hreply] at hlog
    exact .unfetched hlog
  | ok d =>
    rw [hreply] at hlog
    cases hbuild : Topology.build d with
    | error cause =>
      simp only [Except.mapError, hbuild]
      exact .malformed hlog hbuild
    | ok t =>
      simp only [Except.mapError, hbuild]
      exact .installed hlog hbuild

variable {k s}

theorem Refreshed.orderly {reply : Except ProvisioningError Snapshot} {s' : Session σ}
    (h : Refreshed k s reply s') (hs : s.Orderly) : s'.Orderly := by
  have hasked : (s.asked k).Orderly := hs.call k _
  cases h with
  | unfetched => exact hasked
  | malformed => exact hasked
  | installed => exact (hasked.install _).orderly

theorem Refreshed.holds {snapshot : Snapshot} {s' : Session σ}
    (h : Refreshed k s (.ok snapshot) s') (hs : s.Orderly) : s'.Holds snapshot := by
  cases h with
  | installed => exact Session.Orderly.install (hs.call k _) _

theorem Session.Orderly.holds (hs : s.Orderly) {snapshot : Snapshot}
    (hcurrent : s.store.current? = some snapshot) : s.Holds snapshot :=
  hs.imp fun _ hheld => ⟨hheld.current_mem hcurrent, hheld⟩

end

section

variable (k : Controller σ) (s : Session σ) (r : RouteRequest)

def planIn (snapshot : Snapshot) : Except ProvisioningError RoutePlan :=
  ((snapshot.topology.route r.entry r.exit).mapError (.route none)).map (⟨snapshot.generation, ·⟩)

def Session.routed (snapshot : Snapshot) : Session σ :=
  (Session.onStore (SnapshotStore.route snapshot r.entry r.exit) s).2

inductive Planned : Except ProvisioningError RoutePlan → Session σ → Prop
  | held : s.store.current? = some snapshot → Planned (planIn r snapshot) (s.routed r snapshot)
  | fetched : s.store.current? = none → Refreshed k s (.ok snapshot) s' →
    Planned (planIn r snapshot) (s'.routed r snapshot)
  | failed : s.store.current? = none → Refreshed k s (.error e) s' → Planned (.error e) s'

variable {s}

theorem run_planIn {snapshot : Snapshot} (hs : s.Holds snapshot) :
    (do
      let route ← Workflow.route none snapshot r.entry r.exit
      return ⟨snapshot.generation, route⟩ : Workflow σ RoutePlan).run.run s =
      (planIn r snapshot, s.routed r snapshot) := by
  have hroute : (Workflow.route none snapshot r.entry r.exit).run.run s =
      ((snapshot.topology.route r.entry r.exit).mapError (.route none), s.routed r snapshot) := by
    rw [← (hs.route r.entry r.exit).2]
    rfl
  rw [run_bind, hroute, planIn]
  cases snapshot.topology.route r.entry r.exit <;> rfl

theorem run_currentSnapshot : (currentSnapshot k).run.run s =
    match s.store.current? with
    | some snapshot => (.ok snapshot, s)
    | none => (refreshTopology k).run.run s := by
  rw [currentSnapshot, run_bind]
  change ((match s.store.current? with
    | some snapshot => pure snapshot
    | none => refreshTopology k) : Workflow σ Snapshot).run.run s = _
  cases s.store.current? <;> rfl

theorem planned (hs : s.Orderly) :
    Planned k s r ((planRoute k r).run.run s).1 ((planRoute k r).run.run s).2 := by
  have hrefreshed := refreshed k s
  rw [planRoute, run_bind, run_currentSnapshot]
  cases hcurrent : s.store.current? with
  | some snapshot =>
    dsimp only
    rw [run_planIn r (hs.holds hcurrent)]
    exact .held hcurrent
  | none =>
    rcases hrun : (refreshTopology k).run.run s with ⟨e | snapshot, s'⟩
    · rw [hrun] at hrefreshed
      exact .failed hcurrent hrefreshed
    · rw [hrun] at hrefreshed
      dsimp only
      rw [run_planIn r (hrefreshed.holds hs)]
      exact .fetched hcurrent hrefreshed

variable {k r}

theorem Planned.orderly {reply : Except ProvisioningError RoutePlan} {s' : Session σ}
    (h : Planned k s r reply s') (hs : s.Orderly) : s'.Orderly := by
  cases h with
  | held hcurrent => exact ((hs.holds hcurrent).route _ _).1.orderly
  | fetched _ hrefreshed => exact ((hrefreshed.holds hs).route _ _).1.orderly
  | failed _ hrefreshed => exact hrefreshed.orderly hs

end

section

variable (k : Controller σ)

/-- The sessions that a message may leave, by the workflow that is run for it. -/
inductive Served (s : Session σ) : Session σ → Prop
  | idle : Served s s
  | network (o : Order) : Served s ((createNetwork k o).run.run s).2
  | route (r : RouteRequest) : Served s ((planRoute k r).run.run s).2
  | refresh : Served s ((refreshTopology k).run.run s).2

def handlers : List (String × Handler (Session σ)) :=
  [("createNetwork", createNetworkMethod k), ("getRoute", getRouteMethod k),
    ("refreshTopology", refreshTopologyMethod k)]

theorem methods_eq : methods k = .registered (handlers k) := rfl

theorem served_createNetwork (id params : Json) (s : Session σ) :
    Served k s ((createNetworkMethod k id params).run s).2 := by
  unfold createNetworkMethod
  cases orderOf params with
  | error e => exact .idle
  | ok o =>
    rw [run_completion]
    -- Without the projection out of the way unification would run the workflow.
    dsimp only
    exact .network o

theorem served_getRoute (id params : Json) (s : Session σ) :
    Served k s ((getRouteMethod k id params).run s).2 := by
  unfold getRouteMethod
  cases readParams RouteRequest.codec params with
  | error e => exact .idle
  | ok r =>
    rw [run_completion]
    exact .route r

theorem served (v : Json) (s : Session σ) : Served k s (((methods k).answer v).run s).2 := by
  cases he : Envelope.ofJson v with
  | error refusal =>
    rw [Methods.answer_of_refused he]
    exact .idle
  | ok e =>
    cases hfound : (methods k).find? e.method with
    | none =>
      rw [Methods.answer_of_unknown he hfound]
      exact .idle
    | some h =>
      rw [Methods.answer_of_found he hfound]
      rw [methods_eq, Methods.find?_registered] at hfound
      obtain ⟨before, after, hsplit, -⟩ := hfound
      have hmem : (e.method, h) ∈ handlers k := hsplit ▸ List.mem_append_right _ (.head _)
      simp only [handlers, List.mem_cons, List.not_mem_nil, Prod.mk.injEq, or_false] at hmem
      obtain ⟨-, rfl⟩ | ⟨-, rfl⟩ | ⟨-, rfl⟩ := hmem
      · exact served_createNetwork k _ _ s
      · exact served_getRoute k _ _ s
      · exact .refresh

variable {k} {s s' : Session σ}

theorem Served.orderly (h : Served k s s') (hs : s.Orderly) : s'.Orderly := by
  cases h with
  | idle => exact hs
  | network o => exact (createNetwork_follows k o s hs).1
  | route r => exact (planned k r hs).orderly hs
  | refresh => exact (refreshed k s).orderly hs

theorem Served.goesOn {start : Session σ} (h : Served k s s') (hs : start.GoesOn k s) :
    start.GoesOn k s' := by
  have hkept := Session.goesOn_kept k start
  have hrefresh := refreshTopology_replies k start
  cases h with
  | idle => exact hs
  | network o => exact createNetwork_preserves hkept hrefresh o s hs
  | route r => exact planRoute_preserves hkept hrefresh r s hs
  | refresh => exact hrefresh s hs

variable (k)

def Session.after (s : Session σ) (messages : List Json) : Session σ :=
  messages.foldl (fun s v => (((methods k).answer v).run s).2) s

variable {k}

theorem Session.after_concat (messages : List Json) (v : Json) :
    s.after k (messages ++ [v]) = (((methods k).answer v).run (s.after k messages)).2 := by
  rw [after, List.foldl_append]
  rfl

theorem Session.after_of_served {I : Session σ → Prop}
    (hstep : ∀ s s', I s → Served k s s' → I s') (hs : I s) (messages : List Json) :
    I (s.after k messages) := by
  induction messages generalizing s with
  | nil => exact hs
  | cons v messages ih => exact ih (hstep _ _ hs (served k v s))

end

end Overlay.Planner
