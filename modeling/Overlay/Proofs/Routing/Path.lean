import Overlay.Proofs.Routing.Cache
import Overlay.Proofs.Routing.Search

namespace Overlay.Routing

open Fabric

theorem joined_of_build {d : Description} {t : Topology} (h : Topology.build d = .ok t) :
    (Adjacent t.neighbours) = d.Joined := by
  funext a b
  exact propext (Topology.mem_neighbours_of_build h)

section

variable {t : Topology} {src dst : Dpid}

theorem path_of_not_mem_dst (hdst : dst ∉ t.switches) :
    t.path src dst = .error (.unknownSwitch dst) := by
  rw [path_eq, if_neg (by simpa using hdst)]

theorem path_of_not_mem_src (hdst : dst ∈ t.switches) (hsrc : src ∉ t.switches) :
    t.path src dst = .error (.unknownSwitch src) := by
  have htree : t.tree src = .error (.unknownSwitch src) := if_neg (by simpa using hsrc)
  rw [path_eq, if_pos (by simpa using hdst), htree]

theorem path_of_mem (hdst : dst ∈ t.switches) (hsrc : src ∈ t.switches) :
    t.path src dst = match (SearchTree.grow t src).pathTo? dst with
      | some way => .ok way
      | none => .error (.disconnected src dst) := by
  have htree : t.tree src = .ok (.grow t src) := if_pos (by simpa using hsrc)
  cases hpath : (SearchTree.grow t src).pathTo? dst <;> simp [path_eq, htree, hdst, hpath]

theorem path_eq_ok_iff (hdst : dst ∈ t.switches) (hsrc : src ∈ t.switches) {way : List Dpid} :
    t.path src dst = .ok way ↔ LeastWalk (Adjacent t.neighbours) src dst way := by
  rw [path_of_mem hdst hsrc, ← SearchTree.pathTo?_grow_eq_some]
  cases (SearchTree.grow t src).pathTo? dst <;> simp

theorem path_eq_disconnected_iff (hdst : dst ∈ t.switches) (hsrc : src ∈ t.switches) :
    t.path src dst = .error (.disconnected src dst) ↔
      ¬∃ way, Walk (Adjacent t.neighbours) src dst way := by
  rw [path_of_mem hdst hsrc, ← SearchTree.pathTo?_grow_eq_none]
  cases (SearchTree.grow t src).pathTo? dst <;> simp

theorem least_of_path {way : List Dpid} (h : t.path src dst = .ok way) :
    LeastWalk (Adjacent t.neighbours) src dst way := by
  by_cases hdst : dst ∈ t.switches
  · by_cases hsrc : src ∈ t.switches
    · exact (path_eq_ok_iff hdst hsrc).mp h
    · rw [path_of_not_mem_src hdst hsrc] at h
      cases h
  · rw [path_of_not_mem_dst hdst] at h
    cases h

theorem exists_path_of_walk (hdst : dst ∈ t.switches) (hsrc : src ∈ t.switches)
    (hwalk : ∃ way, Walk (Adjacent t.neighbours) src dst way) :
    ∃ way, t.path src dst = .ok way ∧ LeastWalk (Adjacent t.neighbours) src dst way := by
  cases hpath : (SearchTree.grow t src).pathTo? dst with
  | none => exact absurd hwalk (SearchTree.pathTo?_grow_eq_none.mp hpath)
  | some way =>
    refine ⟨way, ?_, SearchTree.pathTo?_grow_eq_some.mp hpath⟩
    rw [path_of_mem hdst hsrc, hpath]

end

/-- Four switches in a diamond that is closed by its lower half first, with a loop, a doubled link,
and a fifth switch that no link leads to. -/
def diamond : Description where
  switches := [⟨4⟩, ⟨1⟩, ⟨3⟩, ⟨5⟩, ⟨2⟩, ⟨1⟩]
  links := [⟨⟨⟨1⟩, 2⟩, ⟨⟨3⟩, 1⟩⟩, ⟨⟨⟨3⟩, 2⟩, ⟨⟨4⟩, 1⟩⟩, ⟨⟨⟨1⟩, 7⟩, ⟨⟨2⟩, 9⟩⟩, ⟨⟨⟨1⟩, 1⟩, ⟨⟨2⟩, 1⟩⟩,
    ⟨⟨⟨2⟩, 0⟩, ⟨⟨2⟩, 0⟩⟩, ⟨⟨⟨2⟩, 65535⟩, ⟨⟨4⟩, 2⟩⟩, ⟨⟨⟨5⟩, 1⟩, ⟨⟨1⟩, 3⟩⟩, ⟨⟨⟨1⟩, 2⟩, ⟨⟨3⟩, 1⟩⟩]

def builtDiamond : Topology where
  switches := [⟨1⟩, ⟨2⟩, ⟨3⟩, ⟨4⟩, ⟨5⟩]
  links := [⟨⟨⟨1⟩, 1⟩, ⟨⟨2⟩, 1⟩⟩, ⟨⟨⟨1⟩, 2⟩, ⟨⟨3⟩, 1⟩⟩, ⟨⟨⟨1⟩, 7⟩, ⟨⟨2⟩, 9⟩⟩, ⟨⟨⟨2⟩, 0⟩, ⟨⟨2⟩, 0⟩⟩,
    ⟨⟨⟨2⟩, 65535⟩, ⟨⟨4⟩, 2⟩⟩, ⟨⟨⟨3⟩, 2⟩, ⟨⟨4⟩, 1⟩⟩, ⟨⟨⟨5⟩, 1⟩, ⟨⟨1⟩, 3⟩⟩]
  switches_ascending := by decide
  links_ascending := by decide
  declared := by decide

theorem build_diamond : Topology.build diamond = .ok builtDiamond := rfl

theorem walk_diamond : Walk diamond.Joined ⟨1⟩ ⟨4⟩ [⟨1⟩, ⟨3⟩, ⟨4⟩] :=
  .step (.step .start ⟨⟨⟨⟨1⟩, 2⟩, ⟨⟨3⟩, 1⟩⟩, by decide, rfl, rfl⟩)
    ⟨⟨⟨⟨3⟩, 2⟩, ⟨⟨4⟩, 1⟩⟩, by decide, rfl, rfl⟩

/-- A path query fails for undeclared switches, the destination first, and for switches without a
walk between them; otherwise it finds a walk that no other undercuts. -/
theorem path_reply {d : Description} {t : Topology} (h : Topology.build d = .ok t)
    (earlier : List Query) (src dst : Dpid) :
    let reply := ((Query.path src dst).run t (PathCache.after t earlier)).1
    (dst ∉ d.switches → reply = .error (.unknownSwitch dst)) ∧
    (dst ∈ d.switches → src ∉ d.switches → reply = .error (.unknownSwitch src)) ∧
    (dst ∈ d.switches → src ∈ d.switches →
      (reply = .error (.disconnected src dst) ↔ ¬∃ way, Walk d.Joined src dst way) ∧
      ((∃ way, Walk d.Joined src dst way) → ∃ way, reply = .ok way ∧
        way.head? = some src ∧ way.getLast? = some dst ∧ way.IsChain d.Joined ∧
        ∀ other, Walk d.Joined src dst other → way.length ≤ other.length)) := by
  rw [PathCache.run_after]
  change let reply := t.path src dst; _
  intro reply
  simp only [← Topology.mem_switches_of_build h, ← joined_of_build h]
  refine ⟨path_of_not_mem_dst, path_of_not_mem_src, ?_⟩
  intro hdst hsrc
  constructor
  · exact path_eq_disconnected_iff hdst hsrc
  · intro hwalk
    obtain ⟨way, hreply, hleast⟩ := exists_path_of_walk hdst hsrc hwalk
    obtain ⟨hhead, hlast, hchain⟩ := Walk.iff_isChain.mp hleast.walk
    exact ⟨way, hreply, hhead, hlast, hchain, hleast.shortest⟩

theorem path_reply_diamond : Topology.build diamond = .ok builtDiamond ∧
    ∃ way, ((Query.path ⟨1⟩ ⟨4⟩).run builtDiamond
        (PathCache.after builtDiamond [.tree ⟨4⟩, .path ⟨1⟩ ⟨2⟩])).1 = .ok way ∧
      way.head? = some ⟨1⟩ ∧ way.getLast? = some ⟨4⟩ ∧ way.IsChain diamond.Joined ∧
      ∀ other, Walk diamond.Joined ⟨1⟩ ⟨4⟩ other → way.length ≤ other.length :=
  ⟨build_diamond, ((path_reply build_diamond [.tree ⟨4⟩, .path ⟨1⟩ ⟨2⟩] ⟨1⟩ ⟨4⟩).2.2
    (by decide) (by decide)).2 ⟨_, walk_diamond⟩⟩

/-- The path is the lowest of the shortest walks between two switches. Which switches and links
there are decides it, and not where the description lists them. -/
theorem path_least {d : Description} {t : Topology} (h : Topology.build d = .ok t)
    (earlier : List Query) {src dst : Dpid} (hsrc : src ∈ d.switches) (hdst : dst ∈ d.switches)
    (hreach : ∃ way, Walk d.Joined src dst way) :
    ∃ way, ((Query.path src dst).run t (PathCache.after t earlier)).1 = .ok way ∧
      ShortestWalk d.Joined src dst way ∧
      (∀ other, ShortestWalk d.Joined src dst other → other ≠ way → way < other) ∧
      ∀ d' t', Topology.build d' = .ok t' → (∀ s, s ∈ d'.switches ↔ s ∈ d.switches) →
        (∀ l, l ∈ d'.links ↔ l ∈ d.links) → ∀ earlier',
          ((Query.path src dst).run t' (PathCache.after t' earlier')).1 = .ok way := by
  rw [PathCache.run_after]
  have hsrc' := (Topology.mem_switches_of_build h).mpr hsrc
  have hdst' := (Topology.mem_switches_of_build h).mpr hdst
  rw [← joined_of_build h] at hreach
  obtain ⟨way, hreply, hleast⟩ := exists_path_of_walk hdst' hsrc' hreach
  rw [joined_of_build h] at hleast
  refine ⟨way, hreply, hleast.toShortestWalk, ?_, ?_⟩
  · intro other hother hne
    exact (hleast.least other hother).resolve_left hne
  · intro d' t' h' hswitches hlinks earlier'
    have hjoined : d'.Joined = d.Joined := by
      funext a b
      simp only [Description.Joined, hlinks]
    rw [PathCache.run_after]
    refine (path_eq_ok_iff ?_ ?_).mpr (by rwa [joined_of_build h', hjoined])
    · exact (Topology.mem_switches_of_build h').mpr ((hswitches dst).mpr hdst)
    · exact (Topology.mem_switches_of_build h').mpr ((hswitches src).mpr hsrc)

theorem path_least_diamond : Topology.build diamond = .ok builtDiamond ∧
    ⟨1⟩ ∈ diamond.switches ∧ ⟨4⟩ ∈ diamond.switches ∧
    (∃ way, Walk diamond.Joined ⟨1⟩ ⟨4⟩ way) ∧
    ShortestWalk diamond.Joined ⟨1⟩ ⟨4⟩ [⟨1⟩, ⟨2⟩, ⟨4⟩] ∧
    ∀ other, ShortestWalk diamond.Joined ⟨1⟩ ⟨4⟩ other → other ≠ [⟨1⟩, ⟨2⟩, ⟨4⟩] →
      [⟨1⟩, ⟨2⟩, ⟨4⟩] < other := by
  obtain ⟨way, hreply, hshortest, hlowest, -⟩ :=
    path_least build_diamond [.path ⟨4⟩ ⟨1⟩] (by decide) (by decide) ⟨_, walk_diamond⟩
  have hway : ((Query.path ⟨1⟩ ⟨4⟩).run builtDiamond
      (PathCache.after builtDiamond [.path ⟨4⟩ ⟨1⟩])).1 = .ok [⟨1⟩, ⟨2⟩, ⟨4⟩] := by decide +kernel
  obtain rfl : [⟨1⟩, ⟨2⟩, ⟨4⟩] = way := Except.ok.inj (hway.symm.trans hreply)
  exact ⟨build_diamond, by decide, by decide, ⟨_, walk_diamond⟩, hshortest, hlowest⟩

end Overlay.Routing
