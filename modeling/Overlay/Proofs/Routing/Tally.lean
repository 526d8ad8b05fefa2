import Mathlib.Data.Finset.Card
import Overlay.Proofs.Routing.Routable

namespace Overlay.Routing

open Fabric

namespace Query

/-- A query needs a search from a switch, provided that the switch is declared. -/
def Needs (d : Description) (src : Dpid) : Query → Prop
  | tree root => root = src
  | path start dst => start = src ∧ dst ∈ d.switches
  | route entry exit => entry.dpid = src ∧ exit.dpid ≠ src ∧ exit.dpid ∈ d.switches

instance (d : Description) (src : Dpid) (q : Query) : Decidable (q.Needs d src) :=
  match q with
  | tree root => inferInstanceAs (Decidable (root = src))
  | path start dst => inferInstanceAs (Decidable (start = src ∧ dst ∈ d.switches))
  | route entry exit =>
    inferInstanceAs (Decidable (entry.dpid = src ∧ exit.dpid ≠ src ∧ exit.dpid ∈ d.switches))

def source? (t : Topology) : Query → Option Dpid
  | tree root => if root ∈ t.switches then some root else none
  | path src dst => if dst ∈ t.switches ∧ src ∈ t.switches then some src else none
  | route entry exit =>
    if entry.dpid ≠ exit.dpid ∧ exit.dpid ∈ t.switches ∧ entry.dpid ∈ t.switches then
      some entry.dpid
    else none

def Unknown : (q : Query) → q.Reply → Prop
  | tree _, reply => ∃ s, reply = .error (.unknownSwitch s)
  | path _ _, reply => ∃ s, reply = .error (.unknownSwitch s)
  | route entry exit, reply =>
    ∃ s, reply = .error (.noRoute entry.dpid exit.dpid (.unknownSwitch s))

section

variable {d : Description} {t : Topology} {q : Query}

theorem source?_eq_some_iff (h : Topology.build d = .ok t) {src : Dpid} :
    q.source? t = some src ↔ src ∈ d.switches ∧ q.Needs d src := by
  have hswitches {s : Dpid} := Topology.mem_switches_of_build h (s := s)
  cases q <;> simp only [source?, Needs, hswitches, Option.ite_none_right_eq_some,
    Option.some.injEq] <;> grind

theorem source?_of_unknown (h : Topology.build d = .ok t) (hq : q.Unknown (q.answer t)) :
    q.source? t = none := by
  have hswitches {s : Dpid} := Topology.mem_switches_of_build h (s := s)
  cases q with
  | tree root =>
    obtain ⟨s, hs⟩ := hq
    change t.tree root = _ at hs
    by_cases hroot : root ∈ t.switches
    · rw [Topology.tree, if_pos (by simpa using hroot)] at hs
      cases hs
    · exact if_neg hroot
  | path src dst =>
    obtain ⟨s, hs⟩ := hq
    have hunroutable := (path_eq_error_iff h).mp hs
    apply if_neg
    rintro ⟨hdst, hsrc⟩
    exact hunroutable.not_declared ⟨hswitches.mp hdst, hswitches.mp hsrc⟩
  | route entry exit =>
    obtain ⟨s, hs⟩ := hq
    obtain ⟨-, cause, hcause, hunroutable⟩ := (route_eq_error_iff h).mp hs
    obtain rfl : TopologyError.unknownSwitch s = cause := (RouteError.noRoute.inj hcause).2.2
    apply if_neg
    rintro ⟨-, hdst, hsrc⟩
    exact hunroutable.not_declared ⟨hswitches.mp hdst, hswitches.mp hsrc⟩

end

end Query

namespace PathCache

def roots (c : PathCache) : List Dpid := c.trees.map (·.root)

def keep (c : PathCache) (t : Topology) (src : Dpid) : PathCache :=
  if src ∈ c.roots then c else c.add (.grow t src)

@[simp] theorem roots_add (c : PathCache) (tree : SearchTree) :
    (c.add tree).roots = c.roots ++ [tree.root] := by
  simp [roots, add]

@[simp] theorem length_roots (c : PathCache) : c.roots.length = c.sources := by
  simp [roots, sources]

theorem mem_roots_iff {c : PathCache} {src : Dpid} :
    src ∈ c.roots ↔ ∃ kept, c.find? src = some kept := by
  rw [← Option.isSome_iff_exists, find?, List.find?_isSome]
  simp [roots]

section

variable {t : Topology} {c : PathCache}

theorem tree_cache (src : Dpid) : ((tree t src).run.run c).2 =
    if src ∈ t.switches then c.keep t src else c := by
  rw [run_tree, keep]
  simp only [Topology.contains_iff]
  by_cases hsrc : src ∈ t.switches
  · rw [if_pos hsrc, if_pos hsrc]
    cases hfind : c.find? src with
    | none => exact (if_neg (by simp [mem_roots_iff, hfind])).symm
    | some kept => exact (if_pos (mem_roots_iff.mpr ⟨kept, hfind⟩)).symm
  · rw [if_neg hsrc, if_neg hsrc]

theorem path_cache (src dst : Dpid) : ((path t src dst).run.run c).2 =
    if dst ∈ t.switches then ((tree t src).run.run c).2 else c := by
  rw [run_path]
  simp only [Topology.contains_iff]
  by_cases hdst : dst ∈ t.switches
  · rw [if_pos hdst, if_pos hdst]
    rcases (tree t src).run.run c with ⟨_ | found, c⟩
    · rfl
    · cases h : found.pathTo? dst <;> simp [h]
  · rw [if_neg hdst, if_neg hdst]

theorem route_cache (entry exit : Endpoint) : ((route t entry exit).run.run c).2 =
    if entry.dpid = exit.dpid then c else ((path t entry.dpid exit.dpid).run.run c).2 := by
  rw [run_route]
  by_cases hsame : entry.dpid = exit.dpid
  · rw [if_pos hsame, if_pos hsame]
  · rw [if_neg hsame, if_neg hsame]
    rcases (path t entry.dpid exit.dpid).run.run c with ⟨_ | way, c⟩ <;> rfl

theorem run_cache (q : Query) : (q.run t c).2 =
    match q.source? t with
    | some src => c.keep t src
    | none => c := by
  cases q with
  | tree root =>
    change ((tree t root).run.run c).2 = _
    rw [tree_cache, Query.source?]
    split <;> rfl
  | path src dst =>
    change ((path t src dst).run.run c).2 = _
    rw [path_cache, tree_cache, Query.source?]
    by_cases hdst : dst ∈ t.switches <;> by_cases hsrc : src ∈ t.switches <;> simp [hdst, hsrc]
  | route entry exit =>
    change ((route t entry exit).run.run c).2 = _
    rw [route_cache, path_cache, tree_cache, Query.source?]
    by_cases hsame : entry.dpid = exit.dpid
    · simp [hsame]
    · by_cases hdst : exit.dpid ∈ t.switches <;> by_cases hsrc : entry.dpid ∈ t.switches <;>
        simp [hsame, hdst, hsrc]

end

/-- What the counters of a cache say about the queries that it has served. -/
structure Tallied (t : Topology) (queries : List Query) (c : PathCache) : Prop where
  counted : c.searches = c.sources
  distinct : c.roots.Nodup
  needed : ∀ src, src ∈ c.roots ↔ ∃ q ∈ queries, q.source? t = some src

namespace Tallied

variable {t : Topology} {queries : List Query} {c : PathCache}

theorem empty (t : Topology) : Tallied t [] {} where
  counted := rfl
  distinct := .nil
  needed := by simp [roots]

theorem keep (h : Tallied t queries c) {q : Query} {src : Dpid} (hq : q.source? t = some src) :
    Tallied t (queries ++ [q]) (c.keep t src) := by
  have hneeded (s : Dpid) : (∃ p ∈ queries ++ [q], p.source? t = some s) ↔
      s ∈ c.roots ∨ s = src := by
    simp [or_and_right, exists_or, h.needed, hq, eq_comm (a := src)]
  rw [PathCache.keep]
  by_cases hroot : src ∈ c.roots
  · rw [if_pos hroot]
    refine ⟨h.counted, h.distinct, ?_⟩
    intro s
    rw [hneeded]
    constructor
    · exact .inl
    · rintro (hs | rfl)
      · exact hs
      · exact hroot
  · rw [if_neg hroot]
    constructor
    case counted =>
      have hcounted : c.searches = c.trees.length := h.counted
      simp [add, sources, hcounted]
    case distinct =>
      rw [roots_add, List.nodup_append]
      refine ⟨h.distinct, by simp, ?_⟩
      intro a ha b hb hab
      have hb : b = src := List.mem_singleton.mp hb
      exact hroot (hb ▸ hab ▸ ha)
    case needed =>
      intro s
      rw [hneeded, roots_add, List.mem_append, List.mem_singleton]
      rfl

theorem run (h : Tallied t queries c) (q : Query) :
    Tallied t (queries ++ [q]) (q.run t c).2 := by
  rw [run_cache]
  cases hq : q.source? t with
  | some src => exact h.keep hq
  | none =>
    refine ⟨h.counted, h.distinct, ?_⟩
    intro s
    simp [h.needed, or_and_right, exists_or, hq]

theorem sources_eq_card {d : Description} (h : Tallied t queries c)
    (hbuild : Topology.build d = .ok t) : c.sources =
      (d.switches.toFinset.filter fun src => ∃ q ∈ queries, q.Needs d src).card := by
  rw [← length_roots, ← List.toFinset_card_of_nodup h.distinct]
  congr 1
  ext src
  simp only [List.mem_toFinset, h.needed, Finset.mem_filter, Query.source?_eq_some_iff hbuild]
  constructor
  · rintro ⟨q, hq, hsrc, hneeds⟩
    exact ⟨hsrc, q, hq, hneeds⟩
  · rintro ⟨hsrc, q, hq, hneeds⟩
    exact ⟨q, hq, hsrc, hneeds⟩

end Tallied

theorem after_concat (t : Topology) (queries : List Query) (q : Query) :
    after t (queries ++ [q]) = (q.run t (after t queries)).2 := by
  simp [after]

theorem tallied_after (t : Topology) (queries : List Query) :
    Tallied t queries (after t queries) := by
  induction queries using List.reverseRecOn with
  | nil => exact .empty t
  | append_singleton queries q ih =>
    rw [after_concat]
    exact ih.run q

def serve (t : Topology) : List Query → PathCache → List (Σ q : Query, q.Reply) × PathCache
  | [], c => ([], c)
  | q :: queries, c =>
    let (reply, c) := q.run t c
    let (replies, c) := serve t queries c
    (⟨q, reply⟩ :: replies, c)

theorem serve_cache (t : Topology) (queries : List Query) (c : PathCache) :
    (serve t queries c).2 = queries.foldl (fun c q => (q.run t c).2) c := by
  induction queries generalizing c with
  | nil => rfl
  | cons q queries ih => exact ih _

theorem Sound.serve {t : Topology} {c : PathCache} (h : Sound t c) (queries : List Query) :
    (serve t queries c).1 = queries.map fun q => ⟨q, q.answer t⟩ := by
  induction queries generalizing c with
  | nil => rfl
  | cons q queries ih =>
    obtain ⟨c', hrun, hc'⟩ := h.run q
    simp only [PathCache.serve, hrun, List.map_cons, ih hc']

/-- A path cache that serves some queries replies to each as a fresh one would. It has searched
once from every declared switch that one of them needs, and keeps as many trees. A query about a
switch that is not known leaves it as it is. -/
theorem serve_as_fresh {d : Description} {t : Topology} (h : Topology.build d = .ok t)
    (queries : List Query) :
    let served := serve t queries {}
    let needed := d.switches.toFinset.filter fun src => ∃ q ∈ queries, q.Needs d src
    served.1 = queries.map (fun q => ⟨q, (q.run t {}).1⟩) ∧
    served.2.searches = needed.card ∧ served.2.sources = needed.card ∧
    ∀ q : Query, q.Unknown (q.run t served.2).1 → (q.run t served.2).2 = served.2 := by
  intro served needed
  have hcache : served.2 = after t queries := serve_cache t queries {}
  have htallied := tallied_after t queries
  have hsources : served.2.sources = needed.card := by
    rw [hcache]
    exact htallied.sources_eq_card h
  refine ⟨?_, ?_, hsources, ?_⟩
  · have hfresh (q : Query) : (q.run t {}).1 = q.answer t := run_after t [] q
    simp only [hfresh]
    exact (Sound.empty t).serve queries
  · rw [← hsources, hcache]
    exact htallied.counted
  · intro q hq
    rw [hcache] at hq ⊢
    rw [run_after] at hq
    rw [run_cache, Query.source?_of_unknown h hq]

theorem serve_as_fresh_diamond :
    let queries : List Query := [.tree ⟨4⟩, .path ⟨1⟩ ⟨4⟩, .path ⟨1⟩ ⟨9⟩, .path ⟨3⟩ ⟨9⟩,
      .route ⟨⟨1⟩, 1⟩ ⟨⟨5⟩, 1⟩, .route ⟨⟨2⟩, 1⟩ ⟨⟨2⟩, 2⟩, .tree ⟨4⟩]
    let served := serve builtDiamond queries {}
    Topology.build diamond = .ok builtDiamond ∧ served.2.searches = 2 ∧ served.2.sources = 2 ∧
      (Query.path ⟨9⟩ ⟨1⟩).Unknown ((Query.path ⟨9⟩ ⟨1⟩).run builtDiamond served.2).1 ∧
      ((Query.path ⟨9⟩ ⟨1⟩).run builtDiamond served.2).2 = served.2 := by
  intro queries served
  obtain ⟨-, hsearches, hsources, hunknown⟩ := serve_as_fresh build_diamond queries
  have hreply : (Query.path ⟨9⟩ ⟨1⟩).Unknown
      ((Query.path ⟨9⟩ ⟨1⟩).run builtDiamond served.2).1 := ⟨⟨9⟩, rfl⟩
  exact ⟨build_diamond, hsearches.trans (by decide), hsources.trans (by decide), hreply,
    hunknown _ hreply⟩

end PathCache
end Overlay.Routing
