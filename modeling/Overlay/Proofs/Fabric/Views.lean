import Overlay.Proofs.Fabric.Agreement

namespace Overlay.Fabric

theorem Endpoint.dpid_eq_iff {a : Dpid} {port : Endpoint} :
    port.dpid = a ↔ ¬port < ⟨a, 0⟩ ∧ ¬(⟨a, 65535⟩ : Endpoint) < port := by
  have hlast := UInt16.toNat_lt port.port
  constructor
  · rintro rfl
    constructor
    · rw [Endpoint.lt_iff]
      rintro (hlt | ⟨-, hport⟩)
      · exact StrictTotal.irrefl _ hlt
      · exact Nat.not_lt_zero _ hport
    · rw [Endpoint.lt_iff]
      rintro (hlt | ⟨-, hport⟩)
      · exact StrictTotal.irrefl _ hlt
      · exact absurd (Nat.le_of_lt_succ hlast) (Nat.not_le.mpr hport)
  · rintro ⟨hlow, hhigh⟩
    by_contra hne
    have hlt : ¬port.dpid < a := fun hlt => hlow (Endpoint.lt_iff.mpr (.inl hlt))
    exact hhigh (Endpoint.lt_iff.mpr (.inl (StrictTotal.lt_of_not_lt hlt hne)))

namespace Topology

variable {t : Topology} {a b : Dpid} {l : Link} {table : List (Dpid × List Dpid)}

theorem mem_neighbours_iff_linkFrom? :
    b ∈ t.neighbours a ↔ ∃ p l, t.linkFrom? ⟨a, p⟩ = some l ∧ l.dst.dpid = b := by
  simp only [mem_neighbours, linkFrom?_eq_some_iff]
  constructor
  · rintro ⟨l, hl, rfl, hb⟩
    exact ⟨l.src.port, l, ⟨hl, rfl⟩, hb⟩
  · rintro ⟨p, l, ⟨hl, hsrc⟩, hb⟩
    exact ⟨l, hl, congrArg Endpoint.dpid hsrc, hb⟩

theorem isSome_linkTowards? : (t.linkTowards? a b).isSome ↔ b ∈ t.neighbours a := by
  rw [Option.isSome_iff_exists]
  constructor
  · rintro ⟨l, hl⟩
    obtain ⟨hmem, ha, hb, -⟩ := linkTowards?_eq_some hl
    exact mem_neighbours.mpr ⟨l, hmem, ha, hb⟩
  · exact exists_linkTowards?

theorem linkTowards?_eq_some_iff : t.linkTowards? a b = some l ↔
    ∃ p, t.linkFrom? ⟨a, p⟩ = some l ∧ l.dst.dpid = b ∧
      ∀ q k, t.linkFrom? ⟨a, q⟩ = some k → k.dst.dpid = b → p ≤ q := by
  constructor
  · intro h
    obtain ⟨hl, ha, hb, hlowest⟩ := linkTowards?_eq_some h
    refine ⟨l.src.port, linkFrom?_eq_some_iff.mpr ⟨hl, by rw [← ha]⟩, hb, ?_⟩
    intro q k hk hkb
    obtain ⟨hk, hsrc⟩ := linkFrom?_eq_some_iff.mp hk
    have hle := hlowest k hk (by rw [hsrc]) hkb
    rwa [hsrc] at hle
  · rintro ⟨p, hl, hb, hlowest⟩
    obtain ⟨k, hk⟩ := exists_linkTowards? (mem_neighbours_iff_linkFrom?.mpr ⟨p, l, hl, hb⟩)
    obtain ⟨hkmem, ha, hkb, hklowest⟩ := linkTowards?_eq_some hk
    obtain ⟨hlmem, hsrc⟩ := linkFrom?_eq_some_iff.mp hl
    have hksrc : k.src = ⟨a, k.src.port⟩ := by rw [← ha]
    -- both links are the lowest, so they leave by the same port
    have hle : p ≤ k.src.port := hlowest _ k (linkFrom?_eq_some_iff.mpr ⟨hkmem, hksrc⟩) hkb
    have hge : k.src.port ≤ p := by
      have hge := hklowest l hlmem (by rw [hsrc]) hb
      rwa [hsrc] at hge
    have hsame : k.src = l.src := by rw [hksrc, hsrc, UInt16.le_antisymm hle hge]
    rw [hk, eq_of_src hkmem hlmem hsame]

theorem pairwise_neighbours (t : Topology) (a : Dpid) : (t.neighbours a).Pairwise (· < ·) :=
  pairwise_ascending id _

def enter (table : List (Dpid × List Dpid)) (l : Link) : List (Dpid × List Dpid) :=
  table.map fun (a, row) => (a, if a = l.src.dpid then insertAscending id l.dst.dpid row else row)

/-- The neighbours of all declared switches, entered link by link. -/
def adjacency (t : Topology) : List (Dpid × List Dpid) :=
  t.links.foldl enter (t.switches.map fun a => (a, []))

theorem lookup_enter : (enter table l).lookup a = (table.lookup a).map fun row =>
    if a = l.src.dpid then insertAscending id l.dst.dpid row else row := by
  induction table with
  | nil => rfl
  | cons entry table ih =>
    obtain ⟨b, row⟩ := entry
    rw [enter, List.map_cons, List.lookup_cons, List.lookup_cons]
    cases hsame : a == b with
    | false => exact ih
    | true =>
      rw [eq_of_beq hsame]
      rfl

theorem lookup_foldl_enter (ls : List Link) : (ls.foldl enter table).lookup a =
    (table.lookup a).map fun row => ((ls.filter (·.src.dpid = a)).map (·.dst.dpid)).foldl
      (fun row b => insertAscending id b row) row := by
  induction ls generalizing table with
  | nil => simp
  | cons l ls ih =>
    rw [List.foldl_cons, ih, lookup_enter, Option.map_map]
    congr 1
    funext row
    rw [Function.comp_apply]
    by_cases hl : l.src.dpid = a
    · rw [if_pos hl.symm, List.filter_cons_of_pos (by simpa using hl)]
      rfl
    · rw [if_neg (Ne.symm hl), List.filter_cons_of_neg (by simpa using hl)]

theorem neighbours_eq_lookup : t.neighbours a = (t.adjacency.lookup a).getD [] := by
  rw [adjacency, lookup_foldl_enter]
  by_cases ha : a ∈ t.switches
  · rw [List.lookup_graph _ ha]
    rfl
  · have hnone : (t.switches.map fun a => (a, ([] : List Dpid))).lookup a = none := by
      rw [List.lookup_eq_none_iff]
      intro entry hentry
      obtain ⟨b, hb, rfl⟩ := List.mem_map.mp hentry
      exact bne_iff_ne.mpr fun heq => ha (heq ▸ hb)
    rw [hnone]
    exact List.eq_nil_iff_forall_not_mem.mpr fun b hb => ha (neighbours_declared hb).1

def linksBetween (t : Topology) (low high : Endpoint) : List Link :=
  t.links.filter fun l => ¬l.src < low ∧ ¬high < l.src

theorem linkTowards?_eq_find? : t.linkTowards? a b =
    (t.linksBetween ⟨a, 0⟩ ⟨a, 65535⟩).find? (·.dst.dpid = b) := by
  rw [linksBetween, List.find?_filter, linkTowards?]
  congr 1
  funext l
  simp [Endpoint.dpid_eq_iff (a := a)]

/-- Neighbours, links out of ports and links towards switches are three views of the links that a
description declares. -/
theorem views_agree {d : Description} (h : build d = .ok t) (a b : Dpid) :
    (b ∈ t.neighbours a ↔ ∃ p l, t.linkFrom? ⟨a, p⟩ = some l ∧ l.dst.dpid = b) ∧
    (b ∈ t.neighbours a ↔ (t.linkTowards? a b).isSome) ∧
    t.neighbours a = (t.adjacency.lookup a).getD [] ∧
    t.linkTowards? a b = (t.linksBetween ⟨a, 0⟩ ⟨a, 65535⟩).find? (·.dst.dpid = b) ∧
    (t.neighbours a).Pairwise (· < ·) ∧
    (∀ c ∈ t.neighbours a, c ∈ d.switches) ∧
    (∀ p l, t.linkFrom? ⟨a, p⟩ = some l ↔ l ∈ d.links ∧ l.src = ⟨a, p⟩) ∧
    ∀ l, t.linkTowards? a b = some l ↔ ∃ p, t.linkFrom? ⟨a, p⟩ = some l ∧ l.dst.dpid = b ∧
      ∀ q k, t.linkFrom? ⟨a, q⟩ = some k → k.dst.dpid = b → p ≤ q := by
  refine ⟨mem_neighbours_iff_linkFrom?, isSome_linkTowards?.symm, neighbours_eq_lookup,
    linkTowards?_eq_find?, pairwise_neighbours t a, ?_, ?_, fun l => linkTowards?_eq_some_iff⟩
  · intro c hc
    exact (mem_switches_of_build h).mp (neighbours_declared hc).2
  · intro p l
    rw [linkFrom?_eq_some_iff, mem_links_of_build h]

def outermost : Description where
  switches := [⟨8⟩, ⟨7⟩, ⟨9⟩]
  links := [⟨⟨⟨8⟩, 65535⟩, ⟨⟨9⟩, 1⟩⟩, ⟨⟨⟨8⟩, 0⟩, ⟨⟨7⟩, 65535⟩⟩, ⟨⟨⟨7⟩, 65535⟩, ⟨⟨9⟩, 2⟩⟩,
    ⟨⟨⟨9⟩, 0⟩, ⟨⟨9⟩, 0⟩⟩]

theorem views_agree_outermost : ∃ t, build outermost = .ok t ∧
    t.linkFrom? ⟨⟨8⟩, 65535⟩ = some ⟨⟨⟨8⟩, 65535⟩, ⟨⟨9⟩, 1⟩⟩ ∧ ⟨9⟩ ∈ t.neighbours ⟨8⟩ ∧
    (t.linkTowards? ⟨8⟩ ⟨9⟩).isSome := by
  obtain ⟨t, h⟩ : ∃ t, build outermost = .ok t := ⟨_, rfl⟩
  obtain ⟨hports, htowards, -, -, -, -, hdeclared, -⟩ := views_agree h ⟨8⟩ ⟨9⟩
  have hfrom := (hdeclared 65535 ⟨⟨⟨8⟩, 65535⟩, ⟨⟨9⟩, 1⟩⟩).mpr (by decide)
  have hnear := hports.mpr ⟨_, _, hfrom, rfl⟩
  exact ⟨t, h, hfrom, hnear, htowards.mp hnear⟩

end Topology
end Overlay.Fabric
