import Overlay.Planner.Refresh
import Overlay.Proofs.Planner.Plan
import Overlay.Proofs.Routing.Snapshot

namespace Overlay.Planner

open Controller Fabric Routing Tenant

namespace Session

/-- Whatever has been installed and asked in the snapshot store of a session. -/
def Orderly (s : Session σ) : Prop := ∃ held, s.store.HandedOut held

def Holds (snapshot : Snapshot) (s : Session σ) : Prop :=
  ∃ held, snapshot ∈ held ∧ s.store.HandedOut held

variable {s : Session σ} {snapshot : Snapshot}

theorem Holds.orderly (h : s.Holds snapshot) : s.Orderly :=
  h.imp fun _ => And.right

theorem orderly_start (c : σ) (log : List Exchange) : Orderly ⟨c, {}, log⟩ := ⟨[], .start⟩

theorem Orderly.call (h : s.Orderly) (k : Controller σ) (c : Call) :
    (Session.call k c s).2.Orderly := by
  obtain ⟨held, hheld⟩ := h
  obtain ⟨more, hmore⟩ := hheld.installs (k.meanwhile c s.controller)
  exact ⟨_, hmore⟩

theorem Holds.call (h : s.Holds snapshot) (k : Controller σ) (c : Call) :
    (Session.call k c s).2.Holds snapshot := by
  obtain ⟨held, hmem, hheld⟩ := h
  obtain ⟨more, hmore⟩ := hheld.installs (k.meanwhile c s.controller)
  exact ⟨_, List.mem_append_right _ hmem, hmore⟩

theorem Orderly.install (h : s.Orderly) (t : Topology) :
    (onStore (SnapshotStore.install t) s).2.Holds (s.store.install t).1 := by
  obtain ⟨held, hheld⟩ := h
  exact ⟨_, List.mem_cons_self, hheld.install t⟩

theorem Holds.route (h : s.Holds snapshot) (entry exit : Endpoint) :
    (onStore (SnapshotStore.route snapshot entry exit) s).2.Holds snapshot ∧
    (onStore (SnapshotStore.route snapshot entry exit) s).1 =
      snapshot.topology.route entry exit := by
  obtain ⟨held, hmem, hheld⟩ := h
  exact ⟨⟨held, hmem, hheld.query (.route entry exit) hmem⟩, hheld.route_eq hmem entry exit⟩

end Session

namespace Plan

def route (tenant? : Option TenantId) (t : Topology) (entry exit : Endpoint) : Plan Route :=
  .ofExcept ((t.route entry exit).mapError (.route tenant?))

def fetch : Plan Topology := do
  let d ← call .getPhysicalTopology
  .ofExcept ((Topology.build d).mapError .topology)

theorem runs_fetch_bind {f : Topology → Plan α} {trace : List Exchange}
    {reply : Except ProvisioningError α} : (fetch >>= f).Runs trace reply ↔
      (∃ failure, trace = [⟨.getPhysicalTopology, .error failure⟩] ∧
        reply = .error (.controller .fetchTopology none failure)) ∨
      (∃ d cause, Topology.build d = .error cause ∧
        trace = [⟨.getPhysicalTopology, .ok d⟩] ∧ reply = .error (.topology cause)) ∨
      ∃ d t after, Topology.build d = .ok t ∧
        trace = ⟨.getPhysicalTopology, .ok d⟩ :: after ∧ (f t).Runs after reply := by
  rw [fetch, bind_assoc, runs_call_bind]
  apply or_congr_right
  constructor
  · rintro ⟨d, after, rfl, h⟩
    cases hbuild : Topology.build d with
    | error cause =>
      rw [hbuild] at h
      obtain ⟨rfl, rfl⟩ := runs_stop.mp h
      exact .inl ⟨d, cause, hbuild, rfl, rfl⟩
    | ok t =>
      rw [hbuild] at h
      exact .inr ⟨d, t, after, hbuild, rfl, h⟩
  · rintro (⟨d, cause, hbuild, rfl, rfl⟩ | ⟨d, t, after, hbuild, rfl, h⟩)
    · refine ⟨d, [], rfl, ?_⟩
      rw [hbuild]
      exact .stop
    · refine ⟨d, after, rfl, ?_⟩
      rw [hbuild]
      exact h

end Plan

namespace Workflow

/-- In every session of a kind a workflow goes as planned, and the session stays of that kind. -/
def Follows (kind : Session σ → Prop) (w : Workflow σ α) (p : Plan α) : Prop :=
  ∀ s, kind s → kind (w.run.run s).2 ∧
    ∃ trace, (w.run.run s).2.log = s.log ++ trace ∧ p.Runs trace (w.run.run s).1

section

variable {kind : Session σ → Prop} {w : Workflow σ α} {p : Plan α}
  {next : α → Workflow σ β} {f : α → Plan β}

theorem Follows.pure (a : α) : Follows kind (Pure.pure a : Workflow σ α) (.done a) := by
  intro s hs
  exact ⟨hs, [], (List.append_nil _).symm, .done⟩

theorem Follows.throw (e : ProvisioningError) :
    Follows kind (MonadExcept.throw e >>= next) (.stop e) := by
  intro s hs
  exact ⟨hs, [], (List.append_nil _).symm, .stop⟩

theorem Follows.ofExcept (r : Except ProvisioningError α) :
    Follows kind (liftExcept r) (.ofExcept r) := by
  intro s hs
  rw [run_liftExcept]
  exact ⟨hs, [], (List.append_nil _).symm, Plan.runs_ofExcept.mpr ⟨rfl, rfl⟩⟩

theorem Follows.call {k : Controller σ} {c : Call} {stage : Stage} {tenant? : Option TenantId}
    (hstage : stage = .ofCall c) (htenant : tenant? = c.tenant?)
    (hkind : ∀ s, kind s → kind (Session.call k c s).2) :
    Follows kind (Workflow.call k stage tenant? c) (.call c) := by
  subst hstage htenant
  intro s hs
  exact ⟨hkind s hs, [⟨c, (Session.call k c s).1⟩], rfl, Plan.runs_call.mpr ⟨_, rfl, rfl⟩⟩

theorem Follows.bind (hw : Follows kind w p) (hnext : ∀ a, Follows kind (next a) (f a)) :
    Follows kind (w >>= next) (p >>= f) := by
  intro s hs
  obtain ⟨hkind, trace, hlog, hrun⟩ := hw s hs
  rw [run_bind]
  rcases hreply : w.run.run s with ⟨_ | a, s'⟩
  · rw [hreply] at hkind hlog hrun
    exact ⟨hkind, trace, hlog, hrun.bind_error⟩
  · rw [hreply] at hkind hlog hrun
    obtain ⟨hkind', after, hlog', hrun'⟩ := hnext a s' hkind
    refine ⟨hkind', trace ++ after, ?_, hrun.bind_ok hrun'⟩
    rw [hlog', hlog, List.append_assoc]

theorem Follows.forM {g : α → Workflow σ PUnit} {q : α → Plan PUnit} {l : List α}
    (h : ∀ a ∈ l, Follows kind (g a) (q a)) : Follows kind (l.forM g) (l.forM q) := by
  induction l with
  | nil => exact .pure ()
  | cons a l ih =>
    refine .bind (h a (.head _)) fun _ => ih ?_
    intro b hb
    exact h b (.tail _ hb)

theorem Follows.mapM {l : List α} (h : ∀ a ∈ l, Follows kind (next a) (f a)) :
    Follows kind (l.mapM next) (l.mapM f) := by
  induction l with
  | nil => exact .pure []
  | cons a l ih =>
    rw [List.mapM_cons, List.mapM_cons]
    refine .bind (h a (.head _)) fun b => .bind (ih ?_) fun _ => .pure _
    intro b hb
    exact h b (.tail _ hb)

end

section

variable {snapshot : Snapshot} {next : Snapshot → Workflow σ α} {f : Topology → Plan α}

theorem Follows.weaken {kind weaker : Session σ → Prop} {w : Workflow σ α} {p : Plan α}
    (h : Follows kind w p) (hweaker : ∀ s, kind s → weaker s) {s : Session σ} (hs : kind s) :
    weaker (w.run.run s).2 ∧
      ∃ trace, (w.run.run s).2.log = s.log ++ trace ∧ p.Runs trace (w.run.run s).1 :=
  (h s hs).imp_left (hweaker _)

theorem Follows.route (tenant? : Option TenantId) (entry exit : Endpoint) :
    Follows (σ := σ) (Session.Holds snapshot) (Workflow.route tenant? snapshot entry exit)
      (.route tenant? snapshot.topology entry exit) := by
  intro s hs
  -- What a cache has seen before is not in the reply, so the plan need not know of caches.
  obtain ⟨hholds, hroute⟩ := hs.route entry exit
  refine ⟨hholds, [], (List.append_nil _).symm, Plan.runs_ofExcept.mpr ⟨rfl, ?_⟩⟩
  rw [← hroute]
  rfl

theorem Follows.install (t : Topology)
    (h : ∀ snapshot, Follows (Session.Holds snapshot) (next snapshot) (f snapshot.topology)) :
    Follows Session.Orderly (Workflow.install t >>= next) (f t) := by
  intro s hs
  rw [run_bind]
  exact (h (s.store.install t).1).weaken (fun _ => Session.Holds.orderly) (hs.install t)

theorem Follows.refresh (k : Controller σ)
    (h : ∀ snapshot, Follows (Session.Holds snapshot) (next snapshot) (f snapshot.topology)) :
    Follows Session.Orderly (refreshTopology k >>= next) (.fetch >>= f) := by
  rw [refreshTopology, Plan.fetch, bind_assoc, bind_assoc]
  refine .bind (.call rfl rfl fun s hs => hs.call k _) fun d => ?_
  cases hbuild : Topology.build d with
  | error cause => exact .throw _
  | ok t => exact .install t h

end
end Workflow
end Overlay.Planner
