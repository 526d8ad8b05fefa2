import Mathlib.Data.List.Dedup
import Overlay.Proofs.Fabric.Agreement

namespace Overlay.Fabric

theorem foldlM_eq_error_iff {f : β → α → Except ε β} {l : List α} {b : β} {e : ε} :
    l.foldlM f b = .error e ↔ ∃ before a after c, l = before ++ a :: after ∧
      before.foldlM f b = .ok c ∧ f c a = .error e := by
  constructor
  · intro h
    induction l generalizing b with
    | nil => cases h
    | cons a l ih =>
      rw [List.foldlM_cons] at h
      cases hstep : f b a with
      | error e' =>
        rw [hstep] at h
        cases h
        exact ⟨[], a, l, b, rfl, rfl, hstep⟩
      | ok next =>
        rw [hstep] at h
        obtain ⟨before, x, after, c, rfl, hbefore, hx⟩ := ih h
        refine ⟨a :: before, x, after, c, rfl, ?_, hx⟩
        rw [List.foldlM_cons, hstep]
        exact hbefore
  · rintro ⟨before, a, after, c, rfl, hbefore, ha⟩
    rw [List.foldlM_append, hbefore]
    change (a :: after).foldlM f c = _
    rw [List.foldlM_cons, ha]
    rfl

theorem length_eq_dedup [DecidableEq α] {l l' : List α} (hnodup : l.Nodup)
    (hmem : ∀ a, a ∈ l ↔ a ∈ l') : l.length = l'.dedup.length := by
  apply List.Perm.length_eq
  rw [List.perm_ext_iff_of_nodup hnodup (List.nodup_dedup l')]
  simpa only [List.mem_dedup] using hmem

namespace Description

/-- What is wrong with a link that is added to a description; its source is looked at first. -/
inductive Refuses (d : Description) (l : Link) : Defect → Prop
  | noSource : l.src.dpid ∉ d.switches → Refuses d l (.undeclared l.src)
  | noTarget : l.src.dpid ∈ d.switches → l.dst.dpid ∉ d.switches →
    Refuses d l (.undeclared l.dst)
  | forked : l.src.dpid ∈ d.switches → l.dst.dpid ∈ d.switches →
    k ∈ d.links → k.src = l.src → k.dst ≠ l.dst → Refuses d l (.forked l.src k.dst l.dst)

abbrev upTo (d : Description) (before : List Link) : Description := { d with links := before }

/-- What is wrong with the first link that does not fit the links before it. -/
inductive FirstDefect (d : Description) : Defect → Prop
  | intro : d.links = before ++ l :: after → (d.upTo before).Fits →
    (d.upTo before).Refuses l defect → FirstDefect d defect

theorem Agrees.refuses {d d' : Description} {l : Link} {defect : Defect} (h : d.Agrees d')
    (hl : d.Refuses l defect) : d'.Refuses l defect := by
  cases hl with
  | noSource hsrc => exact .noSource (mt (h.switches _).mpr hsrc)
  | noTarget hsrc hdst => exact .noTarget ((h.switches _).mp hsrc) (mt (h.switches _).mpr hdst)
  | forked hsrc hdst hk hfrom hto =>
    exact .forked ((h.switches _).mp hsrc) ((h.switches _).mp hdst) ((h.links _).mp hk) hfrom hto

end Description

namespace Topology

variable {d : Description} {t : Topology} {l : Link} {e : TopologyError}

abbrev description (t : Topology) : Description := ⟨t.switches, t.links⟩

theorem description_agrees (h : build d = .ok t) : t.description.Agrees d where
  switches _ := mem_switches_of_build h
  links _ := mem_links_of_build h

theorem addLink_eq_error_iff :
    t.addLink l = .error e ↔ ∃ defect, t.description.Refuses l defect ∧ e = .malformed defect := by
  constructor
  · intro h
    unfold addLink at h
    split at h
    next hsrc =>
      split at h
      next hdst =>
        split at h
        next first hfind =>
          split at h
          next => cases h
          next hto =>
            cases h
            have hfrom : first.src = l.src := by simpa using List.find?_some hfind
            exact ⟨_, .forked hsrc hdst (List.mem_of_find?_eq_some hfind) hfrom hto, rfl⟩
        next => cases h
      next hdst => cases h; exact ⟨_, .noTarget hsrc hdst, rfl⟩
    next hsrc => cases h; exact ⟨_, .noSource hsrc, rfl⟩
  · rintro ⟨_, hl, rfl⟩
    unfold addLink
    cases hl with
    | noSource hsrc => rw [dif_neg hsrc]
    | noTarget hsrc hdst => rw [dif_pos hsrc, dif_neg hdst]
    | @forked k hsrc hdst hk hfrom hto =>
      rw [dif_pos hsrc, dif_pos hdst]
      have hfind : t.links.find? (·.src = l.src) = some k :=
        linkFrom?_eq_some_iff.mpr ⟨hk, hfrom⟩
      simp only [hfind, if_neg hto]

theorem addLink_eq_error_iff_of_build (h : build d = .ok t) :
    t.addLink l = .error e ↔ ∃ defect, d.Refuses l defect ∧ e = .malformed defect := by
  have hagrees := description_agrees h
  rw [addLink_eq_error_iff]
  exact exists_congr fun _ => and_congr_left fun _ => ⟨hagrees.refuses, hagrees.symm.refuses⟩

theorem build_eq_error_iff :
    build d = .error e ↔ ∃ defect, d.FirstDefect defect ∧ e = .malformed defect := by
  rw [build, foldlM_eq_error_iff]
  constructor
  · rintro ⟨before, l, after, t, hsplit, hbuild, hl⟩
    have hbuild : build (d.upTo before) = .ok t := hbuild
    obtain ⟨defect, hrefuses, he⟩ := (addLink_eq_error_iff_of_build hbuild).mp hl
    exact ⟨defect, .intro hsplit (fits_of_build hbuild) hrefuses, he⟩
  · rintro ⟨defect, ⟨hsplit, hfits, hrefuses⟩, he⟩
    obtain ⟨t, hbuild⟩ := exists_build_iff.mpr hfits
    exact ⟨_, _, _, t, hsplit, hbuild,
      (addLink_eq_error_iff_of_build hbuild).mpr ⟨defect, hrefuses, he⟩⟩

theorem build_error (h : build d = .error e) : ∃ defect, e = .malformed defect := by
  obtain ⟨defect, -, rfl⟩ := build_eq_error_iff.mp h
  exact ⟨defect, rfl⟩

/-- A description is built exactly if its links fit. What is built has its switches and its links,
each once and in ascending order; what is refused is refused for its first defect. -/
theorem build_reply (d : Description) :
    ((∃ t, build d = .ok t) ↔ d.Fits) ∧
    (∀ t, build d = .ok t →
      t.switches.Pairwise (· < ·) ∧ (∀ s, s ∈ t.switches ↔ s ∈ d.switches) ∧
      t.links.Pairwise (·.src < ·.src) ∧ (∀ l, l ∈ t.links ↔ l ∈ d.links) ∧
      t.switches.length = d.switches.dedup.length ∧ t.links.length = d.links.dedup.length) ∧
    ∀ e, build d = .error e ↔ ∃ defect, d.FirstDefect defect ∧ e = .malformed defect := by
  refine ⟨exists_build_iff, ?_, fun e => build_eq_error_iff⟩
  intro t h
  have hswitches (s : Dpid) : s ∈ t.switches ↔ s ∈ d.switches := mem_switches_of_build h
  have hlinks (l : Link) : l ∈ t.links ↔ l ∈ d.links := mem_links_of_build h
  refine ⟨t.switches_ascending, hswitches, t.links_ascending, hlinks, ?_, ?_⟩
  · exact length_eq_dedup (.of_map id (nodup_of_ascending id t.switches_ascending)) hswitches
  · exact length_eq_dedup (.of_map _ (nodup_of_ascending Link.src t.links_ascending)) hlinks

def faulty : Description where
  switches := [⟨2⟩, ⟨1⟩, ⟨2⟩]
  links := [⟨⟨⟨1⟩, 5⟩, ⟨⟨2⟩, 1⟩⟩, ⟨⟨⟨1⟩, 5⟩, ⟨⟨2⟩, 1⟩⟩, ⟨⟨⟨1⟩, 5⟩, ⟨⟨2⟩, 3⟩⟩, ⟨⟨⟨2⟩, 1⟩, ⟨⟨9⟩, 1⟩⟩]

theorem build_reply_faulty : ¬faulty.Fits ∧
    faulty.FirstDefect (.forked ⟨⟨1⟩, 5⟩ ⟨⟨2⟩, 1⟩ ⟨⟨2⟩, 3⟩) ∧
    (TopologyError.malformed (.forked ⟨⟨1⟩, 5⟩ ⟨⟨2⟩, 1⟩ ⟨⟨2⟩, 3⟩)).message =
      "malformed topology: port 1/5 is the source of two links (to 2/1 and to 2/3)" := by
  have hbuild : build faulty = .error (.malformed (.forked ⟨⟨1⟩, 5⟩ ⟨⟨2⟩, 1⟩ ⟨⟨2⟩, 3⟩)) := rfl
  obtain ⟨hfits, -, hrefused⟩ := build_reply faulty
  obtain ⟨defect, hfirst, heq⟩ := (hrefused _).mp hbuild
  cases heq
  refine ⟨?_, hfirst, by decide +kernel⟩
  intro h
  obtain ⟨t, hok⟩ := hfits.mpr h
  cases hbuild.symm.trans hok

end Topology
end Overlay.Fabric
