import Overlay.Proofs.Fabric.PathText
import Overlay.Proofs.Planner.FailStop

namespace Overlay.Planner

open Controller Fabric Routing Tenant

structure Copied (o : Order) (d : Description) (t : Topology) (tenant : TenantId)
    (trace : List Exchange) (summary : Summary) : Prop where
  fetched : Topology.build d = .ok t ∧ ⟨.getPhysicalTopology, .ok d⟩ ∈ trace
  switches : t.switches.Pairwise (· < ·) ∧ ∀ a, a ∈ t.switches ↔ a ∈ d.switches
  links : t.links.Pairwise (·.src < ·.src) ∧ ∀ l, l ∈ t.links ↔ l ∈ d.links
  calls : trace.map (·.call) = [.getPhysicalTopology, creation o] ++
    t.switches.map (.createSwitch tenant [·]) ++ t.links.map (.createLink tenant ·.pathText) ++
      o.hosts.map (attachment tenant) ++ [.startNetwork tenant]
  distinct : (t.links.map (·.pathText)).Nodup
  lossless : (t.links.map (·.pathText)).map Link.ofPathText? = t.links.map some
  summary : summary = ⟨tenant, "physical", trace.filterMap switchId?, o.hosts.length, 0,
    t.links.length⟩

section

variable {o : Order} {t : Topology} {tenant : TenantId} {trace : List Exchange}

theorem distinct_pathTexts (t : Topology) : (t.links.map (·.pathText)).Nodup := by
  rw [List.nodup_iff_pairwise_ne, List.pairwise_map]
  apply t.links_ascending.imp
  intro l m hlt heq
  obtain rfl := Link.pathText_injective heq
  exact StrictTotal.irrefl _ hlt

namespace Plan

theorem switchIds_of_mapM {ds : List Dpid} {switches : List SwitchId}
    (h : (ds.mapM fun d => call (.createSwitch tenant [d])).Runs trace (.ok switches)) :
    trace.filterMap switchId? = switches := by
  induction ds generalizing trace switches with
  | nil =>
    obtain ⟨rfl, hswitches⟩ := runs_done.mp h
    exact Except.ok.inj hswitches.symm
  | cons d ds ih =>
    rw [List.mapM_cons] at h
    obtain ⟨failure, -, he⟩ | ⟨switch, after, rfl, hafter⟩ := runs_call_bind.mp h
    · cases he
    obtain ⟨e, -, he⟩ | ⟨others, before, _, hothers, hdone, rfl⟩ := runs_bind.mp hafter
    · cases he
    obtain ⟨rfl, hswitches⟩ := runs_done.mp hdone
    obtain rfl := Except.ok.inj hswitches
    rw [List.append_nil, ← ih hothers]
    rfl

theorem physical_ok {b : Build} (h : (physical t tenant).Runs trace (.ok b)) :
    trace.map (·.call) = t.switches.map (.createSwitch tenant [·]) ++
      t.links.map (.createLink tenant ·.pathText) ∧
    b = ⟨trace.filterMap switchId?, 0, t.links.length⟩ := by
  have hissues : ∃ switch, Issues (buildCalls t tenant [] switch .physical) trace (.ok b) :=
    build_issues h
  refine ⟨hissues.elim fun _ hissues => hissues.complete b rfl, ?_⟩
  obtain ⟨e, -, he⟩ | ⟨switches, before, _, hswitches, hrest, rfl⟩ := runs_bind.mp h
  · cases he
  obtain ⟨e, -, he⟩ | ⟨_, after, _, hlinks, hdone, rfl⟩ := runs_bind.mp hrest
  · cases he
  obtain ⟨rfl, hb⟩ := runs_done.mp hdone
  have hnone : after.filterMap switchId? = [] := by
    apply switchIds_eq_nil
    have hissues :=
      Keeps.forM (fun l : Link => keeps_call (.createLink tenant l.pathText)) _ _ hlinks
    intro x hx _ _ heq
    simpa [heq] using hissues.mem hx
  rw [List.filterMap_append, List.append_nil, hnone, List.append_nil, switchIds_of_mapM hswitches]
  exact Except.ok.inj hb

end Plan

theorem copied_of_course {summary : Summary} (h : Course o trace (.ok summary))
    (hmode : Mode.parse? o.network.type = some .physical) :
    ∃ d t tenant, Copied o d t tenant trace summary := by
  obtain ⟨mode, d, t, tenant, built, b, rest, hadmitted, hbuild, rfl, hrest, rfl⟩ := h.of_ok
  obtain rfl := hadmitted.mode_eq hmode
  obtain ⟨hcalls, rfl⟩ := Plan.physical_ok hbuild
  refine ⟨d, t, tenant, ?_⟩
  constructor
  case fetched => exact ⟨hadmitted.topology, .head _⟩
  case switches =>
    exact ⟨t.switches_ascending, fun a => Topology.mem_switches_of_build hadmitted.topology⟩
  case links => exact ⟨t.links_ascending, fun l => Topology.mem_links_of_build hadmitted.topology⟩
  case calls =>
    rw [List.map_cons, List.map_cons, List.map_append, hcalls, hrest]
    simp
  case distinct => exact distinct_pathTexts t
  case lossless => simp only [List.map_map, Function.comp_def, Link.ofPathText?_pathText]
  case summary =>
    have hattached : rest.filterMap switchId? = [] := by
      apply switchIds_of_attached
      intro x hx
      exact hrest ▸ List.mem_map_of_mem hx
    have hids : List.filterMap switchId? (⟨.getPhysicalTopology, .ok d⟩ ::
        ⟨creation o, .ok tenant⟩ :: (built ++ rest)) = built.filterMap switchId? := by
      change (built ++ rest).filterMap switchId? = _
      rw [List.filterMap_append, hattached, List.append_nil]
    rw [hids]
    rfl

end

/-- A physical network that is reported has all switches and all links of the description that was
fetched for it, and nothing else. -/
theorem createNetwork_copied (k : Controller σ) {o : Order}
    (hmode : Mode.parse? o.network.type = some .physical) {s : Session σ} (hs : s.Orderly)
    {summary : Summary} (hok : ((createNetwork k o).run.run s).1 = .ok summary) :
    ∃ trace d t tenant, ((createNetwork k o).run.run s).2.log = s.log ++ trace ∧
      Replies k s.controller trace ((createNetwork k o).run.run s).2.controller ∧
      Copied o d t tenant trace summary := by
  obtain ⟨trace, hlog, hreplies, hrun⟩ := createNetwork_converses k o hs
  rw [hok] at hrun
  obtain ⟨d, t, tenant, hcopied⟩ := copied_of_course (.of_runs hrun) hmode
  exact ⟨trace, d, t, tenant, hlog, hreplies, hcopied⟩

theorem createNetwork_copied_row :
    let k := counting row none
    let o := twoHosts "Physical" ⟨1⟩ ⟨3⟩
    let summary : Summary := ⟨⟨7⟩, "physical", [⟨2⟩, ⟨3⟩, ⟨4⟩], 2, 0, 4⟩
    Mode.parse? o.network.type = some .physical ∧ Session.used.Orderly ∧
    ((createNetwork k o).run.run .used).1 = .ok summary ∧
    ∃ trace d t tenant, Replies k 0 trace 12 ∧ Copied o d t tenant trace summary := by
  intro k o summary
  have hmode : Mode.parse? o.network.type = some .physical := by decide
  have hok : ((createNetwork k o).run.run .used).1 = .ok summary :=
    eq_ok_of_toOption (by decide +kernel)
  obtain ⟨trace, d, t, tenant, -, hreplies, hcopied⟩ :=
    createNetwork_copied k hmode Session.orderly_used hok
  have hasked : ((createNetwork k o).run.run .used).2.controller = 12 := by decide +kernel
  rw [hasked] at hreplies
  exact ⟨hmode, Session.orderly_used, hok, trace, d, t, tenant, hreplies, hcopied⟩

end Overlay.Planner
