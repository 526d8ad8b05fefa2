import Overlay.Proofs.Fabric.Agreement
import Overlay.Proofs.Routing.Route

namespace Overlay

namespace Fabric

def Link.reverse (l : Link) : Link := ⟨l.dst, l.src⟩

def Description.Cabled (d : Description) : Prop := ∀ l ∈ d.links, l.reverse ∈ d.links

instance (d : Description) : Decidable d.Cabled :=
  inferInstanceAs (Decidable (∀ l ∈ d.links, l.reverse ∈ d.links))

def Description.Free (d : Description) (port : Endpoint) : Prop := ∀ l ∈ d.links, l.src ≠ port

instance (d : Description) (port : Endpoint) : Decidable (d.Free port) :=
  inferInstanceAs (Decidable (∀ l ∈ d.links, l.src ≠ port))

end Fabric

namespace Routing

open Fabric

section

variable {d : Description} {t : Topology} {entry exit : Endpoint} {hops before after : Route}
  {hop : Hop}

theorem linkFrom?_of_free (hbuild : Topology.build d = .ok t) {port : Endpoint}
    (hfree : d.Free port) : t.linkFrom? port = none := by
  cases hlink : t.linkFrom? port with
  | none => rfl
  | some l =>
    obtain ⟨hl, hsrc⟩ := Topology.linkFrom?_eq_some_iff.mp hlink
    exact absurd hsrc (hfree l ((Topology.mem_links_of_build hbuild).mp hl))

theorem linkFrom?_of_leadsTo {a b : Hop} (h : Hop.LeadsTo t a b) :
    t.linkFrom? a.exit = some ⟨a.exit, b.entry⟩ :=
  Topology.linkFrom?_eq_some_iff.mpr ⟨(Topology.linkTowards?_eq_some h).1, rfl⟩

theorem linkFrom?_back (hbuild : Topology.build d = .ok t) (hcabled : d.Cabled) {a b : Hop}
    (h : Hop.LeadsTo t a b) : t.linkFrom? b.entry = some ⟨b.entry, a.exit⟩ := by
  apply Topology.linkFrom?_eq_some_iff.mpr
  refine ⟨?_, rfl⟩
  rw [Topology.mem_links_of_build hbuild]
  apply hcabled ⟨a.exit, b.entry⟩
  exact (Topology.mem_links_of_build hbuild).mp (Topology.linkTowards?_eq_some h).1

theorem Routed.linkFrom?_exit (h : Routed t entry exit (before ++ hop :: after))
    (hexit : t.linkFrom? exit = none) :
    t.linkFrom? hop.exit = after.head?.map fun next => ⟨hop.exit, next.entry⟩ := by
  cases after with
  | nil =>
    obtain rfl : hop.exit = exit := by simpa using h.leaves
    exact hexit
  | cons next after =>
    have hchain := h.linked.right_of_append
    exact linkFrom?_of_leadsTo (List.isChain_cons_cons.mp hchain).1

theorem Routed.linkFrom?_entry (h : Routed t entry exit (before ++ hop :: after))
    (hbuild : Topology.build d = .ok t) (hcabled : d.Cabled) (hentry : t.linkFrom? entry = none) :
    t.linkFrom? hop.entry = before.getLast?.map fun last => ⟨hop.entry, last.exit⟩ := by
  obtain rfl | ⟨before, last, rfl⟩ := List.eq_nil_or_concat before
  · obtain rfl : hop.entry = entry := by simpa using h.enters
    exact hentry
  · have hleads : Hop.LeadsTo t last hop := by
      have hchain := h.linked
      rw [List.concat_eq_append, List.append_assoc] at hchain
      exact (List.isChain_cons_cons.mp hchain.right_of_append).1
    rw [linkFrom?_back hbuild hcabled hleads]
    simp

theorem Routed.straight (h : Routed t entry exit hops) (hbuild : Topology.build d = .ok t)
    (hcabled : d.Cabled) (hne : entry.dpid ≠ exit.dpid) (hentry : t.linkFrom? entry = none)
    (hexit : t.linkFrom? exit = none) (hmem : hop ∈ hops) : hop.inPort ≠ hop.outPort := by
  intro hports
  obtain ⟨before, after, rfl⟩ := List.append_of_mem hmem
  have hturn : hop.entry = hop.exit := by rw [Hop.entry, Hop.exit, hports]
  have hlinks := h.linkFrom?_entry hbuild hcabled hentry
  rw [hturn, h.linkFrom?_exit hexit] at hlinks
  cases hlast : before.getLast? with
  | none =>
    -- a hop alone would be at both ends of the route
    rw [hlast, Option.map_none, Option.map_eq_none_iff, List.head?_eq_none_iff] at hlinks
    rw [List.getLast?_eq_none_iff] at hlast
    subst hlinks hlast
    obtain rfl : hop.entry = entry := by simpa using h.enters
    obtain rfl : hop.exit = exit := by simpa using h.leaves
    exact hne rfl
  | some last =>
    -- one link leads to the hop before and to the next one, so that they are at one switch
    rw [hlast, Option.map_some, Option.map_eq_some_iff] at hlinks
    obtain ⟨next, hnext, heq⟩ := hlinks
    have hdpid : next.dpid = last.dpid := congrArg (·.dst.dpid) heq
    have hnodup := h.least.nodup
    rw [List.map_append, List.nodup_append] at hnodup
    refine hnodup.2.2 last.dpid ?_ next.dpid ?_ hdpid.symm
    · exact List.mem_map_of_mem (List.mem_of_getLast? hlast)
    · exact List.mem_map_of_mem (.tail _ (List.mem_of_head? hnext))

end

/-- Where every link has its reverse, a route between two switches that begins and ends at ports
without a link leaves no switch by the port it has entered it by. -/
theorem route_straight {d : Description} {t : Topology} (h : Topology.build d = .ok t)
    (hcabled : d.Cabled) (earlier : List Query) {entry exit : Endpoint}
    (hne : entry.dpid ≠ exit.dpid) (hentry : d.Free entry) (hexit : d.Free exit) {hops : Route}
    (hroute : ((Query.route entry exit).run t (PathCache.after t earlier)).1 = .ok hops) :
    ∀ hop ∈ hops, hop.inPort ≠ hop.outPort := by
  rw [PathCache.run_after] at hroute
  intro hop hmem
  have hrouted := route_eq_ok_iff.mp hroute
  exact hrouted.straight h hcabled hne (linkFrom?_of_free h hentry) (linkFrom?_of_free h hexit) hmem

def square : Description where
  switches := [⟨4⟩, ⟨1⟩, ⟨3⟩, ⟨2⟩, ⟨6⟩]
  links := [⟨⟨⟨1⟩, 2⟩, ⟨⟨3⟩, 1⟩⟩, ⟨⟨⟨3⟩, 1⟩, ⟨⟨1⟩, 2⟩⟩, ⟨⟨⟨1⟩, 7⟩, ⟨⟨2⟩, 0⟩⟩, ⟨⟨⟨2⟩, 0⟩, ⟨⟨1⟩, 7⟩⟩,
    ⟨⟨⟨1⟩, 1⟩, ⟨⟨2⟩, 9⟩⟩, ⟨⟨⟨2⟩, 9⟩, ⟨⟨1⟩, 1⟩⟩, ⟨⟨⟨2⟩, 1⟩, ⟨⟨4⟩, 1⟩⟩, ⟨⟨⟨4⟩, 1⟩, ⟨⟨2⟩, 1⟩⟩,
    ⟨⟨⟨3⟩, 2⟩, ⟨⟨4⟩, 2⟩⟩, ⟨⟨⟨4⟩, 2⟩, ⟨⟨3⟩, 2⟩⟩, ⟨⟨⟨6⟩, 1⟩, ⟨⟨6⟩, 1⟩⟩]

def builtSquare : Topology where
  switches := [⟨1⟩, ⟨2⟩, ⟨3⟩, ⟨4⟩, ⟨6⟩]
  links := [⟨⟨⟨1⟩, 1⟩, ⟨⟨2⟩, 9⟩⟩, ⟨⟨⟨1⟩, 2⟩, ⟨⟨3⟩, 1⟩⟩, ⟨⟨⟨1⟩, 7⟩, ⟨⟨2⟩, 0⟩⟩, ⟨⟨⟨2⟩, 0⟩, ⟨⟨1⟩, 7⟩⟩,
    ⟨⟨⟨2⟩, 1⟩, ⟨⟨4⟩, 1⟩⟩, ⟨⟨⟨2⟩, 9⟩, ⟨⟨1⟩, 1⟩⟩, ⟨⟨⟨3⟩, 1⟩, ⟨⟨1⟩, 2⟩⟩, ⟨⟨⟨3⟩, 2⟩, ⟨⟨4⟩, 2⟩⟩,
    ⟨⟨⟨4⟩, 1⟩, ⟨⟨2⟩, 1⟩⟩, ⟨⟨⟨4⟩, 2⟩, ⟨⟨3⟩, 2⟩⟩, ⟨⟨⟨6⟩, 1⟩, ⟨⟨6⟩, 1⟩⟩]
  switches_ascending := by decide
  links_ascending := by decide
  declared := by decide

theorem build_square : Topology.build square = .ok builtSquare := rfl

theorem square_cabled : square.Cabled := by decide

theorem route_straight_square : Topology.build square = .ok builtSquare ∧ square.Cabled ∧
    square.Free ⟨⟨1⟩, 9⟩ ∧ square.Free ⟨⟨4⟩, 0⟩ ∧
    ((Query.route ⟨⟨1⟩, 9⟩ ⟨⟨4⟩, 0⟩).run builtSquare (PathCache.after builtSquare [])).1 =
      .ok [⟨9, ⟨1⟩, 1⟩, ⟨9, ⟨2⟩, 1⟩, ⟨1, ⟨4⟩, 0⟩] ∧
    ∀ hop ∈ ([⟨9, ⟨1⟩, 1⟩, ⟨9, ⟨2⟩, 1⟩, ⟨1, ⟨4⟩, 0⟩] : Route), hop.inPort ≠ hop.outPort := by
  have hentry : square.Free ⟨⟨1⟩, 9⟩ := by decide
  have hexit : square.Free ⟨⟨4⟩, 0⟩ := by decide
  have hroute : ((Query.route ⟨⟨1⟩, 9⟩ ⟨⟨4⟩, 0⟩).run builtSquare
      (PathCache.after builtSquare [])).1 = .ok [⟨9, ⟨1⟩, 1⟩, ⟨9, ⟨2⟩, 1⟩, ⟨1, ⟨4⟩, 0⟩] := by
    decide +kernel
  exact ⟨build_square, square_cabled, hentry, hexit, hroute,
    route_straight build_square square_cabled [] (by decide) hentry hexit hroute⟩

end Routing
end Overlay
