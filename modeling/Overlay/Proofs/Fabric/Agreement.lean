import Mathlib.Data.List.Sort
import Overlay.Proofs.Fabric.Build

namespace Overlay.Fabric

theorem eq_of_ascending [LT κ] [StrictTotal κ] (key : α → κ) {l l' : List α}
    (h : l.Pairwise (key · < key ·)) (h' : l'.Pairwise (key · < key ·))
    (hmem : ∀ a, a ∈ l ↔ a ∈ l') : l = l' := by
  have : Std.Irrefl (α := α) (key · < key ·) := ⟨fun a => StrictTotal.irrefl (key a)⟩
  have : Std.Antisymm (α := α) (key · < key ·) :=
    ⟨fun a _ hlt hgt => absurd (StrictTotal.trans hlt hgt) (StrictTotal.irrefl (key a))⟩
  exact h.eq_of_mem_iff h' hmem

theorem nodup_of_ascending [LT κ] [StrictTotal κ] (key : α → κ) {l : List α}
    (h : l.Pairwise (key · < key ·)) : (l.map key).Nodup := by
  rw [List.Nodup, List.pairwise_map]
  refine h.imp fun hlt heq => ?_
  rw [heq] at hlt
  exact StrictTotal.irrefl _ hlt

theorem find?_eq_some_iff_of_nodup [DecidableEq κ] {key : α → κ} {l : List α}
    (h : (l.map key).Nodup) {k : κ} {a : α} :
    l.find? (key · = k) = some a ↔ a ∈ l ∧ key a = k := by
  constructor
  · intro hfind
    exact ⟨List.mem_of_find?_eq_some hfind, by simpa using List.find?_some hfind⟩
  · rintro ⟨ha, rfl⟩
    cases hfind : l.find? (key · = key a) with
    | none => simpa using List.find?_eq_none.mp hfind a ha
    | some b =>
      have hsame : key b = key a := by simpa using List.find?_some hfind
      rw [List.inj_on_of_nodup_map h (List.mem_of_find?_eq_some hfind) ha hsame]

namespace Description

variable {d d' : Description}

structure Fits (d : Description) : Prop where
  declared : ∀ l ∈ d.links, l.src.dpid ∈ d.switches ∧ l.dst.dpid ∈ d.switches
  unforked : ∀ l ∈ d.links, ∀ k ∈ d.links, l.src = k.src → l.dst = k.dst

structure Agrees (d d' : Description) : Prop where
  switches : ∀ s, s ∈ d.switches ↔ s ∈ d'.switches
  links : ∀ l, l ∈ d.links ↔ l ∈ d'.links

theorem Agrees.symm (h : d.Agrees d') : d'.Agrees d :=
  ⟨fun s => (h.switches s).symm, fun l => (h.links l).symm⟩

theorem Agrees.fits (h : d.Agrees d') (hd : d.Fits) : d'.Fits := by
  constructor
  · simpa only [h.switches, h.links] using hd.declared
  · simpa only [h.links] using hd.unforked

end Description

namespace Topology

variable {d d' : Description} {t t' : Topology}

theorem eq_of_mem_iff (hswitches : ∀ s, s ∈ t.switches ↔ s ∈ t'.switches)
    (hlinks : ∀ l, l ∈ t.links ↔ l ∈ t'.links) : t = t' := by
  have hswitches : t.switches = t'.switches :=
    eq_of_ascending id t.switches_ascending t'.switches_ascending hswitches
  have hlinks : t.links = t'.links :=
    eq_of_ascending Link.src t.links_ascending t'.links_ascending hlinks
  cases t
  cases t'
  cases hswitches
  cases hlinks
  rfl

theorem eq_of_src {l k : Link} (hl : l ∈ t.links) (hk : k ∈ t.links) (h : l.src = k.src) :
    l = k :=
  List.inj_on_of_nodup_map (nodup_of_ascending Link.src t.links_ascending) hl hk h

theorem linkFrom?_eq_some_iff {port : Endpoint} {l : Link} :
    t.linkFrom? port = some l ↔ l ∈ t.links ∧ l.src = port :=
  find?_eq_some_iff_of_nodup (nodup_of_ascending Link.src t.links_ascending)

theorem exists_addLink {l : Link} (hsrc : l.src.dpid ∈ t.switches)
    (hdst : l.dst.dpid ∈ t.switches) (hfree : ∀ k ∈ t.links, k.src = l.src → k.dst = l.dst) :
    ∃ t', t.addLink l = .ok t' := by
  rw [addLink, dif_pos hsrc, dif_pos hdst]
  split
  next first hfind =>
    have hfirst : first.src = l.src := by simpa using List.find?_some hfind
    rw [if_pos (hfree first (List.mem_of_find?_eq_some hfind) hfirst)]
    exact ⟨t, rfl⟩
  next => exact ⟨_, rfl⟩

theorem exists_foldlM_addLink {ls : List Link}
    (hdeclared : ∀ l ∈ ls, l.src.dpid ∈ t.switches ∧ l.dst.dpid ∈ t.switches)
    (hunforked : ∀ l ∈ ls, ∀ k, k ∈ ls ∨ k ∈ t.links → k.src = l.src → k.dst = l.dst) :
    ∃ t', ls.foldlM addLink t = .ok t' := by
  induction ls generalizing t with
  | nil => exact ⟨t, rfl⟩
  | cons l ls ih =>
    obtain ⟨hsrc, hdst⟩ := hdeclared l (.head _)
    obtain ⟨next, hadd⟩ :=
      exists_addLink hsrc hdst fun k hk => hunforked l (.head _) k (.inr hk)
    obtain ⟨hswitches, hlinks⟩ := addLink_ok hadd
    rw [List.foldlM_cons, hadd]
    apply ih
    · intro k hk
      rw [hswitches]
      exact hdeclared k (.tail _ hk)
    · intro k hk m hm
      apply hunforked k (.tail _ hk)
      rw [hlinks] at hm
      grind

theorem fits_of_build (h : build d = .ok t) : d.Fits where
  declared l hl := by
    rw [← mem_switches_of_build h, ← mem_switches_of_build h]
    exact t.declared l ((mem_links_of_build h).mpr hl)
  unforked l hl k hk hsrc := congrArg Link.dst <|
    eq_of_src ((mem_links_of_build h).mpr hl) ((mem_links_of_build h).mpr hk) hsrc

theorem exists_build_iff : (∃ t, build d = .ok t) ↔ d.Fits := by
  constructor
  · rintro ⟨t, h⟩
    exact fits_of_build h
  · intro h
    apply exists_foldlM_addLink
    · intro l hl
      simpa [ofSwitches] using h.declared l hl
    · intro l hl k hk hsrc
      exact h.unforked k (by simpa [ofSwitches] using hk) l hl hsrc

theorem build_of_agrees (hagrees : d.Agrees d') (h : build d = .ok t) : build d' = .ok t := by
  obtain ⟨t', h'⟩ := exists_build_iff.mpr (hagrees.fits (fits_of_build h))
  have heq : t' = t := by
    apply eq_of_mem_iff
    · intro s
      rw [mem_switches_of_build h, mem_switches_of_build h', hagrees.switches]
    · intro l
      rw [mem_links_of_build h, mem_links_of_build h', hagrees.links]
  rw [h', heq]

end Topology
end Overlay.Fabric
