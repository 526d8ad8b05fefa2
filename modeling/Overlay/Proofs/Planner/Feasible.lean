import Overlay.Proofs.Planner.BigSwitch
import Overlay.Proofs.Planner.Conversation
import Overlay.Proofs.Planner.Report

namespace Overlay.Planner

open Controller Fabric Routing Tenant

structure Feasible (o : Order) (d : Description) (mode : Mode) : Prop
    extends Acceptable o mode where
  topology : ∃ t, Topology.build d = .ok t
  placed : ∀ h ∈ o.hosts, h.dpid ∈ d.switches
  connected : mode = .bigSwitch → ∀ i j : Fin o.hosts.length, i ≠ j →
    ∃ way, Walk d.Joined (o.hosts.get i).dpid (o.hosts.get j).dpid way

/-- A controller that reports a description when it is asked in a state, and that never refuses
anything else. -/
structure Willing (k : Controller σ) (c : σ) (d : Description) : Prop where
  reports : (k.answer .getPhysicalTopology c).1 = .ok d
  accepts : ∀ call ≠ .getPhysicalTopology, ∀ c, ∃ a, (k.answer call c).1 = .ok a

section

variable {o : Order} {mode : Mode} {d : Description} {t : Topology} {hosts : List Host}

theorem connected_iff (hbuild : Topology.build d = .ok t)
    (hplaced : ∀ h ∈ hosts, h.dpid ∈ t.switches) :
    (∀ i j : Fin hosts.length, i ≠ j →
      ∃ way, Walk d.Joined (hosts.get i).dpid (hosts.get j).dpid way) ↔
    ∀ p ∈ pairs hosts, ∃ route, t.route p.1.port p.2.port = .ok route := by
  have hroute (i j : Fin hosts.length) :
      (∃ hops, t.route (hosts.get i).port (hosts.get j).port = .ok hops) ↔
        ∃ way, Walk d.Joined (hosts.get i).dpid (hosts.get j).dpid way := by
    rw [← joined_of_build hbuild]
    exact exists_route_iff (hplaced _ (List.get_mem hosts i)) (hplaced _ (List.get_mem hosts j))
  constructor
  · rintro hconnected ⟨src, dst⟩ hmem
    obtain ⟨i, j, hne, rfl, rfl⟩ := mem_pairs.mp hmem
    exact (hroute i j).mpr (hconnected i j hne)
  · intro hroutes i j hne
    exact (hroute i j).mp (hroutes _ (mem_pairs.mpr ⟨i, j, hne, rfl, rfl⟩))

theorem feasible_iff : Feasible o d mode ↔ ∃ t, Admitted o mode d t ∧
    (mode = .bigSwitch → ∀ p ∈ pairs o.hosts, ∃ route,
      t.route p.1.port p.2.port = .ok route) := by
  constructor
  · rintro ⟨hacceptable, ⟨t, hbuild⟩, hplaced, hconnected⟩
    have hplaced' : ∀ h ∈ o.hosts, h.dpid ∈ t.switches :=
      fun h hh => (Topology.mem_switches_of_build hbuild).mpr (hplaced h hh)
    refine ⟨t, ⟨checkOrder_eq_ok_iff.mpr hacceptable, hbuild, ?_⟩, fun hmode => ?_⟩
    · exact checkHosts_eq_ok_iff.mpr hplaced'
    · exact (connected_iff hbuild hplaced').mp (hconnected hmode)
  · rintro ⟨t, ⟨hcheck, hbuild, hhosts⟩, hroutes⟩
    have hplaced := checkHosts_eq_ok_iff.mp hhosts
    refine ⟨checkOrder_eq_ok_iff.mp hcheck, ⟨t, hbuild⟩, ?_, fun hmode => ?_⟩
    · exact fun h hh => (Topology.mem_switches_of_build hbuild).mp (hplaced h hh)
    · exact (connected_iff hbuild hplaced).mpr (hroutes hmode)

variable {k : Controller σ} {c c' : σ} {trace : List Exchange}

theorem feasible_of_course (hk : Willing k c d) (hreplies : Replies k c trace c')
    {summary : Summary} (h : Course o trace (.ok summary)) : ∃ mode, Feasible o d mode := by
  obtain ⟨mode, d', t, tenant, built, b, rest, hadmitted, hbuild, rfl, -, -⟩ := h.of_ok
  obtain rfl : d' = d := Except.ok.inj (hreplies.head.trans hk.reports)
  refine ⟨mode, feasible_iff.mpr ⟨t, hadmitted, ?_⟩⟩
  rintro rfl
  obtain ⟨switch, after, -, -, hroutes, -⟩ := Plan.bigSwitch_ok hbuild
  exact hroutes

theorem Willing.not_failed (hk : Willing k c d) (hreplies : Replies k c trace c')
    {x : Exchange} (hx : x ∈ trace) (hcall : x.call ≠ .getPhysicalTopology) (f : Failure) :
    x.reply ≠ .error f := by
  obtain ⟨c, hreply⟩ := hreplies.mem hx
  obtain ⟨a, ha⟩ := hk.accepts x.call hcall c
  rw [hreply, ha]
  exact nofun

theorem not_error_of_feasible (hfeasible : Feasible o d mode) (hk : Willing k c d)
    (hreplies : Replies k c trace c') (e : ProvisioningError) : ¬Course o trace (.error e) := by
  obtain ⟨t, ⟨hcheck, hbuild, hhosts⟩, hroutes⟩ := feasible_iff.mp hfeasible
  intro h
  cases h with
  | refused he => cases hcheck.symm.trans he
  | unfetched f _ => cases hreplies.head.trans hk.reports
  | malformed _ hbuild' =>
    cases hreplies.head.trans hk.reports
    cases hbuild.symm.trans hbuild'
  | misplaced _ hbuild' he =>
    cases hreplies.head.trans hk.reports
    cases hbuild.symm.trans hbuild'
    cases hhosts.symm.trans he
  | uncreated f _ => exact hk.not_failed hreplies (.tail _ (.head _)) nofun f rfl
  | @created mode' _ t' tenant rest _ hadmitted hrun =>
    cases hreplies.head.trans hk.reports
    obtain rfl : mode = mode' := Except.ok.inj (hcheck.symm.trans hadmitted.order)
    obtain rfl : t = t' := Except.ok.inj (hbuild.symm.trans hadmitted.topology)
    obtain ⟨switch, hissues⟩ := (Construction.of_runs hrun).issues
    obtain ⟨before, x, f, rfl, hx, -⟩ | ⟨-, hmode, src, dst, cause, hmem, hroute, -⟩ :=
      hrun.error_cases (construct_stopsWith hfeasible.built)
    · have htenant := tenant?_of_mem_constructCalls (hissues.mem List.mem_concat_self)
      refine hk.not_failed hreplies (.tail _ (.tail _ List.mem_concat_self)) ?_ f hx
      intro heq
      rw [heq] at htenant
      cases htenant
    · obtain ⟨route, hroute'⟩ := hroutes hmode _ hmem
      cases hroute.symm.trans hroute'

end

/-- Where the controller refuses nothing, a network is built exactly if it is feasible over what the
controller reports. -/
theorem createNetwork_succeeds_iff (k : Controller σ) (o : Order) {d : Description}
    {s : Session σ} (hs : s.Orderly) (hk : Willing k s.controller d) :
    (∃ summary, ((createNetwork k o).run.run s).1 = .ok summary) ↔
      ∃ mode, Feasible o d mode := by
  obtain ⟨trace, hlog, hreplies, hrun⟩ := createNetwork_converses k o hs
  have hcourse := Course.of_runs hrun
  constructor
  · rintro ⟨summary, hok⟩
    rw [hok] at hcourse
    exact feasible_of_course hk hreplies hcourse
  · rintro ⟨mode, hfeasible⟩
    cases hreply : ((createNetwork k o).run.run s).1 with
    | ok summary => exact ⟨summary, rfl⟩
    | error e =>
      rw [hreply] at hcourse
      exact absurd hcourse (not_error_of_feasible hfeasible hk hreplies e)

theorem willing_counting (d : Description) (n : Nat) : Willing (counting d none) n d where
  reports := rfl
  accepts call _ n := ⟨counted d n call, rfl⟩

theorem createNetwork_succeeds_iff_diamond : Session.used.Orderly ∧
    Willing (counting diamond none) Session.used.controller diamond ∧
    (∃ mode, Feasible (twoHosts "physical" ⟨1⟩ ⟨4⟩) diamond mode) ∧
    ¬∃ mode, Feasible (twoHosts "bigswitch" ⟨1⟩ ⟨4⟩) diamond mode := by
  have hwilling := willing_counting diamond Session.used.controller
  have hiff (o : Order) :=
    createNetwork_succeeds_iff (counting diamond none) o Session.orderly_used hwilling
  refine ⟨Session.orderly_used, hwilling, (hiff _).mp ?_, mt (hiff _).mpr ?_⟩
  · exact ⟨⟨⟨7⟩, "physical", [⟨2⟩, ⟨3⟩, ⟨4⟩, ⟨5⟩, ⟨6⟩], 2, 0, 7⟩,
      eq_ok_of_toOption (by decide +kernel)⟩
  · have hnone : ((createNetwork (counting diamond none)
        (twoHosts "bigswitch" ⟨1⟩ ⟨4⟩)).run.run .used).1.toOption = none := by decide +kernel
    rintro ⟨summary, hok⟩
    rw [hok] at hnone
    cases hnone

end Overlay.Planner
