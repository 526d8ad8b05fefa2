import Overlay.Proofs.Routing.Straight

namespace Overlay

def Fabric.Topology.Mutual (t : Fabric.Topology) : Prop :=
  ∀ a b, b ∈ t.neighbours a → a ∈ t.neighbours b

namespace Routing

open Fabric

theorem mutual_of_cabled {d : Description} {t : Topology} (h : Topology.build d = .ok t)
    (hcabled : d.Cabled) : t.Mutual := by
  intro a b hb
  obtain ⟨l, hl, hsrc, hdst⟩ := (Topology.mem_neighbours_of_build h).mp hb
  exact (Topology.mem_neighbours_of_build h).mpr ⟨l.reverse, hcabled l hl, hdst, hsrc⟩

section

variable {joined : Dpid → Dpid → Prop} {src dst : Dpid} {way : List Dpid}
  (hmutual : ∀ a b, joined a b → joined b a)
include hmutual

theorem Walk.reverse (h : Walk joined src dst way) : Walk joined dst src way.reverse := by
  rw [iff_isChain] at h ⊢
  obtain ⟨hhead, hlast, hchain⟩ := h
  refine ⟨?_, ?_, ?_⟩
  · rw [List.head?_reverse, hlast]
  · rw [List.getLast?_reverse, hhead]
  · rw [List.isChain_reverse]
    exact hchain.imp hmutual

theorem ShortestWalk.reverse (h : ShortestWalk joined src dst way) :
    ShortestWalk joined dst src way.reverse where
  walk := h.walk.reverse hmutual
  shortest other hother := by
    have hle := h.shortest _ (hother.reverse hmutual)
    rw [List.length_reverse] at hle ⊢
    exact hle

end

section

variable {t : Topology} (hmutual : t.Mutual) {entry exit : Endpoint} {hops : Route}
include hmutual

theorem exists_route_back (h : t.route entry exit = .ok hops) :
    ∃ back, t.route exit entry = .ok back := by
  by_cases hsame : exit.dpid = entry.dpid
  · exact ⟨_, if_pos hsame⟩
  · have hwalk := (route_eq_ok_iff.mp h).least.walk
    obtain ⟨hentry, hexit⟩ := declared_of_walk hwalk (Ne.symm hsame)
    exact (exists_route_iff hexit hentry).mpr ⟨_, hwalk.reverse hmutual⟩

theorem length_route_back {back : Route} (h : t.route entry exit = .ok hops)
    (hback : t.route exit entry = .ok back) : back.length = hops.length := by
  have hleast := (route_eq_ok_iff.mp h).least
  have hleast' := (route_eq_ok_iff.mp hback).least
  have hlength := hleast'.length_eq (hleast.toShortestWalk.reverse hmutual)
  simpa using hlength

end
end Routing
end Overlay
