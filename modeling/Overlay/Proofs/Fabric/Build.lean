import Overlay.Fabric.Topology

namespace Overlay.Fabric

section

variable [LT κ] [DecidableLT κ] [DecidableEq κ]

theorem mem_insertAscending_self {key : α → κ} {a : α} {l : List α} (h : ∀ b ∈ l, key b ≠ key a) :
    a ∈ insertAscending key a l := by
  obtain ⟨b, hb, hkey⟩ := exists_mem_insertAscending key a l
  cases mem_insertAscending hb with
  | inl heq => exact heq ▸ hb
  | inr hb' => exact absurd hkey (h b hb')

@[simp] theorem mem_insertAscending_id {a b : κ} {l : List κ} :
    b ∈ insertAscending id a l ↔ b = a ∨ b ∈ l := by
  constructor
  · exact mem_insertAscending
  · rintro (rfl | h)
    · obtain ⟨c, hc, rfl⟩ := exists_mem_insertAscending id b l
      exact hc
    · exact mem_insertAscending_of_mem h

theorem mem_foldl_insertAscending_id {b : κ} {l sorted : List κ} :
    b ∈ l.foldl (fun sorted a => insertAscending id a sorted) sorted ↔ b ∈ l ∨ b ∈ sorted := by
  induction l generalizing sorted with
  | nil => simp
  | cons a l ih =>
    simp only [List.foldl_cons, ih, mem_insertAscending_id, List.mem_cons]
    rw [or_left_comm, or_assoc]

@[simp] theorem mem_ascending_id {b : κ} {l : List κ} : b ∈ ascending id l ↔ b ∈ l := by
  simp [ascending, mem_foldl_insertAscending_id]

end

def Description.Joined (d : Description) (a b : Dpid) : Prop :=
  ∃ l ∈ d.links, l.src.dpid = a ∧ l.dst.dpid = b

namespace Topology

theorem addLink_ok {t t' : Topology} {l : Link} (h : t.addLink l = .ok t') :
    t'.switches = t.switches ∧ ∀ k, k ∈ t'.links ↔ k = l ∨ k ∈ t.links := by
  unfold addLink at h
  split at h
  next =>
    split at h
    next =>
      split at h
      next first hfind =>
        split at h
        next hdst =>
          cases h
          have hsrc : first.src = l.src := by simpa using List.find?_some hfind
          have hmem : l ∈ t.links := by
            have heq : first = l := by cases first; cases l; simp_all
            exact heq ▸ List.mem_of_find?_eq_some hfind
          refine ⟨rfl, fun k => ⟨.inr, ?_⟩⟩
          rintro (rfl | hk)
          · exact hmem
          · exact hk
        next => cases h
      next hfind =>
        cases h
        have hfree : ∀ k ∈ t.links, k.src ≠ l.src := by simpa using hfind
        refine ⟨rfl, fun k => ⟨mem_insertAscending, ?_⟩⟩
        rintro (rfl | hk)
        · exact mem_insertAscending_self hfree
        · exact mem_insertAscending_of_mem hk
    next => cases h
  next => cases h

theorem foldlM_addLink_ok {ls : List Link} {t t' : Topology} (h : ls.foldlM addLink t = .ok t') :
    t'.switches = t.switches ∧ ∀ k, k ∈ t'.links ↔ k ∈ ls ∨ k ∈ t.links := by
  induction ls generalizing t with
  | nil =>
    cases h
    simp
  | cons l ls ih =>
    rw [List.foldlM_cons] at h
    cases hadd : t.addLink l with
    | error e => rw [hadd] at h; cases h
    | ok next =>
      rw [hadd] at h
      obtain ⟨hswitches, hlinks⟩ := addLink_ok hadd
      obtain ⟨hswitches', hlinks'⟩ := ih h
      refine ⟨hswitches'.trans hswitches, ?_⟩
      intro k
      rw [hlinks', hlinks, List.mem_cons, or_left_comm, or_assoc]

section

variable {d : Description} {t : Topology}

theorem mem_switches_of_build (h : build d = .ok t) {s : Dpid} :
    s ∈ t.switches ↔ s ∈ d.switches := by
  rw [(foldlM_addLink_ok h).1]
  exact mem_ascending_id

theorem mem_links_of_build (h : build d = .ok t) {l : Link} : l ∈ t.links ↔ l ∈ d.links := by
  rw [(foldlM_addLink_ok h).2 l]
  simp [ofSwitches]

@[simp] theorem contains_iff {s : Dpid} : t.contains s = true ↔ s ∈ t.switches := by
  simp [contains]

theorem mem_neighbours {a b : Dpid} :
    b ∈ t.neighbours a ↔ ∃ l ∈ t.links, l.src.dpid = a ∧ l.dst.dpid = b := by
  simp [neighbours, and_assoc]

theorem neighbours_declared {a b : Dpid} (h : b ∈ t.neighbours a) :
    a ∈ t.switches ∧ b ∈ t.switches := by
  obtain ⟨l, hl, rfl, rfl⟩ := mem_neighbours.mp h
  exact t.declared l hl

theorem mem_neighbours_of_build (h : build d = .ok t) {a b : Dpid} :
    b ∈ t.neighbours a ↔ d.Joined a b := by
  simp only [mem_neighbours, mem_links_of_build h, Description.Joined]

end

theorem exists_linkTowards? {t : Topology} {a b : Dpid} (h : b ∈ t.neighbours a) :
    ∃ l, t.linkTowards? a b = some l := by
  obtain ⟨l, hl, ha, hb⟩ := mem_neighbours.mp h
  rw [← Option.isSome_iff_exists, linkTowards?, List.find?_isSome]
  exact ⟨l, hl, by simp [ha, hb]⟩

theorem linkTowards?_eq_some {t : Topology} {a b : Dpid} {l : Link}
    (h : t.linkTowards? a b = some l) :
    l ∈ t.links ∧ l.src.dpid = a ∧ l.dst.dpid = b ∧
      ∀ k ∈ t.links, k.src.dpid = a → k.dst.dpid = b → l.src.port ≤ k.src.port := by
  obtain ⟨hl, before, after, hsplit, hskip⟩ := List.find?_eq_some_iff_append.mp h
  obtain ⟨ha, hb⟩ : l.src.dpid = a ∧ l.dst.dpid = b := by simpa using hl
  refine ⟨by simp [hsplit], ha, hb, ?_⟩
  intro k hk hka hkb
  have hordered := t.links_ascending
  rw [hsplit] at hk hordered
  cases List.mem_append.mp hk with
  | inl hk =>
    have := hskip k hk
    simp [hka, hkb] at this
  | inr hk =>
    cases hk with
    | head => exact UInt16.le_refl _
    | tail _ hk =>
      have hlt : l.src < k.src :=
        (List.pairwise_cons.mp (List.pairwise_append.mp hordered).2.1).1 k hk
      cases hlt with
      | inl hlt => exact absurd hlt (by rw [ha, hka]; exact StrictTotal.irrefl a)
      | inr hlt => exact UInt16.le_of_lt hlt.2

end Topology
end Overlay.Fabric
