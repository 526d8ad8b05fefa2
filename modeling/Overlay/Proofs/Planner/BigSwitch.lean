import Mathlib.Data.Finset.Prod
import Mathlib.Data.Fintype.Prod
import Overlay.Proofs.Planner.FailStop
import Overlay.Proofs.Routing.Route

namespace Overlay.Planner

open Controller Fabric Routing Tenant

/-- The pairs of `n` positions: each with all later ones, there and back. -/
def crossings (n : Nat) : List (Fin n × Fin n) :=
  (List.finRange n).flatMap fun i =>
    ((List.finRange n).filter (i < ·)).flatMap fun j => [(i, j), (j, i)]

theorem mem_crossings {n : Nat} {i j : Fin n} : (i, j) ∈ crossings n ↔ i ≠ j := by
  simp only [crossings, List.mem_flatMap, List.mem_finRange, true_and, List.mem_filter,
    decide_eq_true_eq, List.mem_cons, Prod.mk.injEq, List.not_mem_nil, or_false]
  constructor
  · rintro ⟨a, b, hab, ⟨rfl, rfl⟩ | ⟨rfl, rfl⟩⟩
    · exact Fin.ne_of_lt hab
    · exact Fin.ne_of_gt hab
  · intro hne
    obtain hlt | hgt := Fin.lt_or_lt_of_ne hne
    · exact ⟨i, j, hlt, .inl ⟨rfl, rfl⟩⟩
    · exact ⟨j, i, hgt, .inr ⟨rfl, rfl⟩⟩

theorem crossings_succ (n : Nat) : crossings (n + 1) =
    ((List.finRange n).flatMap fun j => [(0, j.succ), (j.succ, 0)]) ++
      (crossings n).map (Prod.map Fin.succ Fin.succ) := by
  simp only [crossings, List.finRange_succ, List.flatMap_cons, List.flatMap_map, List.filter_cons,
    List.filter_map, List.map_flatMap]
  simp [Function.comp_def, List.flatMap_map]

theorem bothWays_eq (a : α) (l : List α) : bothWays a l =
    (List.finRange l.length).flatMap fun j => [(a, l[j]), (l[j], a)] := by
  induction l with
  | nil => rfl
  | cons b l ih =>
    rw [bothWays, ih]
    simp [List.finRange_succ, List.flatMap_map]

theorem pairs_eq (l : List α) :
    pairs l = (crossings l.length).map fun (i, j) => (l[i], l[j]) := by
  induction l with
  | nil => rfl
  | cons a l ih =>
    -- The positions depend on the list, so the loops are unrolled outside of the goal.
    have hsucc := congrArg (List.map fun (i, j) => ((a :: l)[i], (a :: l)[j]))
      (crossings_succ l.length)
    rw [pairs, ih, bothWays_eq]
    refine Eq.trans ?_ hsucc.symm
    simp [List.map_flatMap]

theorem mem_pairs {a b : α} {l : List α} :
    (a, b) ∈ pairs l ↔ ∃ i j : Fin l.length, i ≠ j ∧ l[i] = a ∧ l[j] = b := by
  rw [pairs_eq, List.mem_map]
  constructor
  · rintro ⟨⟨i, j⟩, hij, heq⟩
    cases heq
    exact ⟨i, j, mem_crossings.mp hij, rfl, rfl⟩
  · rintro ⟨i, j, hne, rfl, rfl⟩
    exact ⟨(i, j), mem_crossings.mpr hne, rfl⟩

theorem length_crossings (n : Nat) : (crossings n).length = n * (n - 1) := by
  have h := congrArg List.length (pairs_eq (List.finRange n))
  rw [length_pairs, List.length_map, List.length_finRange] at h
  exact h.symm

theorem nodup_crossings (n : Nat) : (crossings n).Nodup := by
  have hpairs : (crossings n).toFinset = (Finset.univ : Finset (Fin n)).offDiag := by
    ext ⟨i, j⟩
    simp [mem_crossings]
  rw [← Multiset.coe_nodup, ← Multiset.toFinset_card_eq_card_iff_nodup]
  change (crossings n).toFinset.card = (crossings n).length
  rw [hpairs, Finset.offDiag_card, length_crossings, Finset.card_univ, Fintype.card_fin,
    Nat.mul_sub_one]

/-- A network that has been built as one switch over a description, and what is told of it. -/
structure OneSwitch (o : Order) (d : Description) (t : Topology) (tenant : TenantId)
    (switch : SwitchId) (routes : List Route) (trace : List Exchange) (summary : Summary) :
    Prop where
  fetched : Topology.build d = .ok t
  ascending : t.switches.Pairwise (· < ·)
  declared : ∀ a, a ∈ t.switches ↔ a ∈ d.switches
  exchanges : ∃ rest, trace = ⟨.getPhysicalTopology, .ok d⟩ :: ⟨creation o, .ok tenant⟩ ::
    ⟨.createSwitch tenant t.switches, .ok switch⟩ :: rest ∧
      rest.map (·.call) = routes.map (.createSwitchRoute tenant switch) ++
        o.hosts.map (attachment tenant) ++ [.startNetwork tenant]
  crossed : routes.map .ok = (crossings o.hosts.length).map fun (i, j) =>
    t.route o.hosts[i].port o.hosts[j].port
  once : (crossings o.hosts.length).Nodup ∧ ∀ i j, (i, j) ∈ crossings o.hosts.length ↔ i ≠ j
  count : routes.length = o.hosts.length * (o.hosts.length - 1)
  spanned : ∀ route ∈ routes, ∀ hop ∈ route, hop.dpid ∈ t.switches
  summary : summary = ⟨tenant, "bigswitch", [switch], o.hosts.length,
    o.hosts.length * (o.hosts.length - 1), 0⟩

section

variable {o : Order} {t : Topology} {tenant : TenantId} {hosts : List Host}
  {trace : List Exchange}

theorem Plan.exists_route {src dst : Host} {switch : SwitchId}
    (h : (sendRoute t tenant switch src dst).Runs trace (.ok ())) :
    ∃ route, t.route src.port dst.port = .ok route := by
  obtain ⟨e, -, he⟩ | ⟨route, before, after, hroute, -, -⟩ := runs_bind.mp h
  · cases he
  · obtain ⟨-, hroute⟩ := runs_ofExcept.mp hroute
    cases hreply : t.route src.port dst.port with
    | ok route => exact ⟨route, rfl⟩
    | error cause =>
      rw [hreply] at hroute
      cases hroute

theorem routes_eq {l : List (Host × Host)}
    (h : ∀ p ∈ l, ∃ route, t.route p.1.port p.2.port = .ok route) :
    (l.flatMap fun (src, dst) => (t.route src.port dst.port).toOption.toList).map .ok =
      l.map fun (src, dst) => t.route src.port dst.port := by
  induction l with
  | nil => rfl
  | cons p l ih =>
    obtain ⟨src, dst⟩ := p
    obtain ⟨⟨route, hroute⟩, hl⟩ := List.forall_mem_cons.mp h
    rw [List.flatMap_cons, List.map_append, List.map_cons, ih hl]
    simp only [hroute]
    rfl

theorem Plan.bigSwitch_ok {b : Build} (h : (bigSwitch t tenant hosts).Runs trace (.ok b)) :
    ∃ switch after, trace = ⟨.createSwitch tenant t.switches, .ok switch⟩ :: after ∧
      after.map (·.call) = (hostRoutes t hosts).map (.createSwitchRoute tenant switch) ∧
      (∀ p ∈ pairs hosts, ∃ route, t.route p.1.port p.2.port = .ok route) ∧
      b = ⟨[switch], (pairs hosts).length, 0⟩ := by
  obtain ⟨failure, -, he⟩ | ⟨switch, after, rfl, hafter⟩ := runs_call_bind.mp h
  · cases he
  obtain ⟨e, -, he⟩ | ⟨_, routed, _, hroutes, hdone, rfl⟩ := runs_bind.mp hafter
  · cases he
  obtain ⟨rfl, hb⟩ := runs_done.mp hdone
  refine ⟨switch, _, rfl, ?_, ?_, Except.ok.inj hb⟩
  · rw [List.append_nil]
    exact (keeps_routes _ _ _ hroutes).complete () rfl
  · intro p hp
    obtain ⟨part, hpart⟩ := hroutes.forM_ok p hp
    exact exists_route hpart

theorem oneSwitch_of_course {summary : Summary} (h : Course o trace (.ok summary))
    (hmode : Mode.parse? o.network.type = some .bigSwitch) :
    ∃ d t tenant switch routes, OneSwitch o d t tenant switch routes trace summary := by
  obtain ⟨mode, d, t, tenant, built, b, rest, hadmitted, hbuild, rfl, hrest, rfl⟩ := h.of_ok
  obtain rfl := hadmitted.mode_eq hmode
  obtain ⟨switch, after, rfl, hafter, hroutes, rfl⟩ := Plan.bigSwitch_ok hbuild
  have hplanned : (hostRoutes t o.hosts).map .ok = (crossings o.hosts.length).map fun (i, j) =>
      t.route o.hosts[i].port o.hosts[j].port := by
    rw [hostRoutes, routes_eq hroutes, pairs_eq, List.map_map]
    rfl
  refine ⟨d, t, tenant, switch, hostRoutes t o.hosts, ?_⟩
  constructor
  case fetched => exact hadmitted.topology
  case ascending => exact t.switches_ascending
  case declared => exact fun a => Topology.mem_switches_of_build hadmitted.topology
  case exchanges =>
    refine ⟨after ++ rest, rfl, ?_⟩
    rw [List.map_append, hafter, hrest, List.append_assoc]
  case crossed => exact hplanned
  case once => exact ⟨nodup_crossings _, fun i j => mem_crossings⟩
  case count => simpa [length_crossings] using congrArg List.length hplanned
  case spanned =>
    intro route hroute
    have hmem : (.ok route : Except RouteError Route) ∈ (hostRoutes t o.hosts).map .ok :=
      List.mem_map_of_mem hroute
    rw [hplanned] at hmem
    obtain ⟨⟨i, j⟩, -, hreply⟩ := List.mem_map.mp hmem
    exact mem_switches_of_route hreply
      (checkHosts_eq_ok_iff.mp hadmitted.hosts _ (List.getElem_mem _))
  case summary => rw [length_pairs]; rfl

end

/-- A big switch that is reported has a route for every two hosts, in either direction and in the
topology that was fetched for it, whatever snapshots there were before or came up meanwhile. -/
theorem createNetwork_oneSwitch (k : Controller σ) {o : Order}
    (hmode : Mode.parse? o.network.type = some .bigSwitch) {s : Session σ} (hs : s.Orderly)
    {summary : Summary} (hok : ((createNetwork k o).run.run s).1 = .ok summary) :
    ∃ trace d t tenant switch routes, ((createNetwork k o).run.run s).2.log = s.log ++ trace ∧
      Replies k s.controller trace ((createNetwork k o).run.run s).2.controller ∧
      OneSwitch o d t tenant switch routes trace summary := by
  obtain ⟨trace, hlog, hreplies, hrun⟩ := createNetwork_converses k o hs
  rw [hok] at hrun
  obtain ⟨d, t, tenant, switch, routes, honeSwitch⟩ := oneSwitch_of_course (.of_runs hrun) hmode
  exact ⟨trace, d, t, tenant, switch, routes, hlog, hreplies, honeSwitch⟩

theorem createNetwork_oneSwitch_row :
    let k := counting row none
    let o := twoHosts "bigswitch" ⟨1⟩ ⟨3⟩
    let summary : Summary := ⟨⟨7⟩, "bigswitch", [⟨2⟩], 2, 2, 0⟩
    Mode.parse? o.network.type = some .bigSwitch ∧ Session.used.Orderly ∧
    ((createNetwork k o).run.run .used).1 = .ok summary ∧
    ∃ trace d t tenant switch routes, Replies k 0 trace 8 ∧
      OneSwitch o d t tenant switch routes trace summary := by
  intro k o summary
  have hmode : Mode.parse? o.network.type = some .bigSwitch := by decide
  have hok : ((createNetwork k o).run.run .used).1 = .ok summary :=
    eq_ok_of_toOption (by decide +kernel)
  obtain ⟨trace, d, t, tenant, switch, routes, -, hreplies, honeSwitch⟩ :=
    createNetwork_oneSwitch k hmode Session.orderly_used hok
  have hasked : ((createNetwork k o).run.run .used).2.controller = 8 := by decide +kernel
  rw [hasked] at hreplies
  exact ⟨hmode, Session.orderly_used, hok, trace, d, t, tenant, switch, routes, hreplies,
    honeSwitch⟩

end Overlay.Planner
