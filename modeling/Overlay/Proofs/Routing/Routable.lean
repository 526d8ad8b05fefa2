import Overlay.Proofs.Routing.Route
import Overlay.Proofs.Routing.Snapshot

namespace Overlay.Routing

open Fabric

/-- Why no route leads from one switch to another; an earlier rule comes before a later one. -/
inductive Unroutable (d : Description) (src dst : Dpid) : TopologyError → Prop
  | noTarget : dst ∉ d.switches → Unroutable d src dst (.unknownSwitch dst)
  | noSource : dst ∈ d.switches → src ∉ d.switches → Unroutable d src dst (.unknownSwitch src)
  | apart : dst ∈ d.switches → src ∈ d.switches → (¬∃ way, Walk d.Joined src dst way) →
    Unroutable d src dst (.disconnected src dst)

variable {d : Description} {t : Topology}

theorem Unroutable.not_declared {src dst s : Dpid} (h : Unroutable d src dst (.unknownSwitch s)) :
    ¬(dst ∈ d.switches ∧ src ∈ d.switches) := by
  rintro ⟨hdst, hsrc⟩
  cases h with
  | noTarget hdst' => exact hdst' hdst
  | noSource _ hsrc' => exact hsrc' hsrc

theorem path_eq_error_iff (h : Topology.build d = .ok t) {src dst : Dpid} {cause : TopologyError} :
    t.path src dst = .error cause ↔ Unroutable d src dst cause := by
  have hswitches {s : Dpid} := Topology.mem_switches_of_build h (s := s)
  constructor
  · intro hpath
    by_cases hdst : dst ∈ t.switches
    · by_cases hsrc : src ∈ t.switches
      · by_cases hwalk : ∃ way, Walk (Adjacent t.neighbours) src dst way
        · obtain ⟨way, hway, -⟩ := exists_path_of_walk hdst hsrc hwalk
          rw [hway] at hpath
          cases hpath
        · rw [(path_eq_disconnected_iff hdst hsrc).mpr hwalk] at hpath
          cases hpath
          rw [joined_of_build h] at hwalk
          exact .apart (hswitches.mp hdst) (hswitches.mp hsrc) hwalk
      · rw [path_of_not_mem_src hdst hsrc] at hpath
        cases hpath
        exact .noSource (hswitches.mp hdst) (mt hswitches.mpr hsrc)
    · rw [path_of_not_mem_dst hdst] at hpath
      cases hpath
      exact .noTarget (mt hswitches.mpr hdst)
  · intro hcause
    cases hcause with
    | noTarget hdst => exact path_of_not_mem_dst (mt hswitches.mp hdst)
    | noSource hdst hsrc => exact path_of_not_mem_src (hswitches.mpr hdst) (mt hswitches.mp hsrc)
    | apart hdst hsrc hwalk =>
      rw [← joined_of_build h] at hwalk
      exact (path_eq_disconnected_iff (hswitches.mpr hdst) (hswitches.mpr hsrc)).mpr hwalk

theorem route_eq_error_iff (h : Topology.build d = .ok t) {entry exit : Endpoint} {e : RouteError} :
    t.route entry exit = .error e ↔ entry.dpid ≠ exit.dpid ∧
      ∃ cause, e = .noRoute entry.dpid exit.dpid cause ∧
        Unroutable d entry.dpid exit.dpid cause := by
  simp only [← path_eq_error_iff h]
  constructor
  · intro hroute
    have hne : entry.dpid ≠ exit.dpid := by
      intro hsame
      rw [Topology.route, if_pos hsame] at hroute
      cases hroute
    refine ⟨hne, ?_⟩
    cases hpath : t.path entry.dpid exit.dpid with
    | error cause =>
      rw [Topology.route, if_neg hne, hpath] at hroute
      exact ⟨cause, (Except.error.inj hroute).symm, rfl⟩
    | ok way =>
      -- along a path there are links to take, so that the route does not fail after it
      have hchain := (Walk.iff_isChain.mp (least_of_path hpath).walk).2.2
      obtain ⟨hops, halong⟩ := exists_along entry.port exit.port hchain
      have hok := route_eq_ok_iff.mpr ((routed_of_ne hne).mpr ⟨way, hpath, halong⟩)
      cases hok.symm.trans hroute
  · rintro ⟨hne, cause, rfl, hpath⟩
    rw [Topology.route, if_neg hne, hpath]

theorem exists_route_iff_of_ne (h : Topology.build d = .ok t) {entry exit : Endpoint}
    (hne : entry.dpid ≠ exit.dpid) : (∃ hops, t.route entry exit = .ok hops) ↔
      entry.dpid ∈ d.switches ∧ exit.dpid ∈ d.switches ∧
        ∃ way, Walk d.Joined entry.dpid exit.dpid way := by
  rw [← joined_of_build h, ← Topology.mem_switches_of_build h, ← Topology.mem_switches_of_build h]
  constructor
  · rintro ⟨hops, hroute⟩
    have hwalk := (route_eq_ok_iff.mp hroute).least.walk
    obtain ⟨hentry, hexit⟩ := declared_of_walk hwalk hne
    exact ⟨hentry, hexit, _, hwalk⟩
  · rintro ⟨hentry, hexit, hwalk⟩
    exact (exists_route_iff hentry hexit).mpr hwalk

theorem declared_of_route (h : Topology.build d = .ok t) {entry exit : Endpoint} {hops : Route}
    (hroute : t.route entry exit = .ok hops)
    (hdeclared : entry.dpid ≠ exit.dpid ∨ entry.dpid ∈ d.switches) :
    ∀ hop ∈ hops, hop.dpid ∈ d.switches := by
  have hentry : entry.dpid ∈ d.switches := by
    cases hdeclared with
    | inl hne => exact ((exists_route_iff_of_ne h hne).mp ⟨hops, hroute⟩).1
    | inr hentry => exact hentry
  simp only [← Topology.mem_switches_of_build h] at hentry ⊢
  exact mem_switches_of_route hroute hentry

/-- Between two switches there is a route exactly if both are declared and a walk leads from the
one to the other; otherwise the first reason against it is reported. Within a switch there is
always a route, and only such a route can be at a switch that is not declared. It makes no
difference which queries came before, nor whether a snapshot of the topology is asked. -/
theorem route_unless_unroutable (h : Topology.build d = .ok t) (earlier : List Query)
    (entry exit : Endpoint) :
    let reply := ((Query.route entry exit).run t (PathCache.after t earlier)).1
    (entry.dpid = exit.dpid → reply = .ok [⟨entry.port, entry.dpid, exit.port⟩]) ∧
    (entry.dpid ≠ exit.dpid →
      ((∃ hops, reply = .ok hops) ↔ entry.dpid ∈ d.switches ∧ exit.dpid ∈ d.switches ∧
        ∃ way, Walk d.Joined entry.dpid exit.dpid way) ∧
      ∀ e, reply = .error e ↔ ∃ cause, e = .noRoute entry.dpid exit.dpid cause ∧
        Unroutable d entry.dpid exit.dpid cause) ∧
    (∀ hops, reply = .ok hops → (entry.dpid ≠ exit.dpid ∨ entry.dpid ∈ d.switches) →
      ∀ hop ∈ hops, hop.dpid ∈ d.switches) ∧
    ∀ held s, SnapshotStore.HandedOut held s → ∀ snapshot ∈ held, snapshot.topology = t →
      (SnapshotStore.route snapshot entry exit s).1 = reply := by
  rw [PathCache.run_after]
  change let reply := t.route entry exit; _
  intro reply
  refine ⟨?_, ?_, ?_, ?_⟩
  · intro hsame
    exact if_pos hsame
  · intro hne
    refine ⟨exists_route_iff_of_ne h hne, ?_⟩
    intro e
    exact (route_eq_error_iff h).trans (and_iff_right hne)
  · intro hops hreply hdeclared
    exact declared_of_route h hreply hdeclared
  · rintro held s hheld snapshot hmem rfl
    exact hheld.route_eq hmem entry exit

theorem route_unless_unroutable_diamond : Topology.build diamond = .ok builtDiamond ∧
    (∃ hops, ((Query.route ⟨⟨1⟩, 9⟩ ⟨⟨4⟩, 0⟩).run builtDiamond
      (PathCache.after builtDiamond [.tree ⟨4⟩])).1 = .ok hops) ∧
    ((Query.route ⟨⟨1⟩, 9⟩ ⟨⟨9⟩, 0⟩).run builtDiamond (PathCache.after builtDiamond [])).1 =
      .error (.noRoute ⟨1⟩ ⟨9⟩ (.unknownSwitch ⟨9⟩)) := by
  have hfound := (route_unless_unroutable build_diamond [.tree ⟨4⟩] ⟨⟨1⟩, 9⟩ ⟨⟨4⟩, 0⟩).2.1
    (by decide)
  have hmissing := (route_unless_unroutable build_diamond [] ⟨⟨1⟩, 9⟩ ⟨⟨9⟩, 0⟩).2.1 (by decide)
  refine ⟨build_diamond, ?_, ?_⟩
  · exact hfound.1.mpr ⟨by decide, by decide, _, walk_diamond⟩
  · exact (hmissing.2 _).mpr ⟨_, rfl, .noTarget (by decide)⟩

/-- A route within a switch that the network does not have. -/
theorem route_within_undeclared :
    let (snapshot, s) := ({} : SnapshotStore).install builtDiamond
    Topology.build diamond = .ok builtDiamond ∧ ⟨9⟩ ∉ diamond.switches ∧
      ((Query.route ⟨⟨9⟩, 1⟩ ⟨⟨9⟩, 2⟩).run builtDiamond (PathCache.after builtDiamond [])).1 =
        .ok [⟨1, ⟨9⟩, 2⟩] ∧
      (SnapshotStore.route snapshot ⟨⟨9⟩, 1⟩ ⟨⟨9⟩, 2⟩ s).1 = .ok [⟨1, ⟨9⟩, 2⟩] :=
  ⟨build_diamond, by decide, rfl, rfl⟩

end Overlay.Routing
