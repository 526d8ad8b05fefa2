import Overlay.Proofs.Planner.BigSwitch
import Overlay.Proofs.Planner.Conversation
import Overlay.Proofs.Planner.Report
import Overlay.Proofs.Routing.Mutual

namespace Overlay.Planner

open Controller Fabric Routing Tenant

theorem split_swaps {l before after : List (α × α)} {x : α × α}
    (h : (l.flatMap fun p => [p, p.swap]) = before ++ x :: after) : ∃ p ∈ l,
      (x = p ∧ ∃ rest, after = p.swap :: rest) ∨ (x = p.swap ∧ ∃ first, before = first ++ [p]) := by
  induction l generalizing before with
  | nil => simp at h
  | cons p l ih =>
    rw [List.flatMap_cons] at h
    cases before with
    | nil =>
      obtain ⟨hx, hafter⟩ := List.cons_eq_cons.mp h
      exact ⟨p, .head _, .inl ⟨hx.symm, _, hafter.symm⟩⟩
    | cons b before =>
      obtain ⟨hb, h⟩ := List.cons_eq_cons.mp h
      cases before with
      | nil =>
        obtain ⟨hx, -⟩ := List.cons_eq_cons.mp h
        exact ⟨p, .head _, .inr ⟨hx.symm, [], by rw [hb]; rfl⟩⟩
      | cons c before =>
        obtain ⟨-, h⟩ := List.cons_eq_cons.mp h
        obtain ⟨q, hq, hsplit⟩ := ih h
        refine ⟨q, .tail _ hq, hsplit.imp_right ?_⟩
        rintro ⟨hx, first, rfl⟩
        exact ⟨hx, b :: c :: first, rfl⟩

theorem crossings_split {n : Nat} {i j : Fin n} {before after : List (Fin n × Fin n)}
    (h : crossings n = before ++ (i, j) :: after) :
    (i < j ∧ ∃ rest, after = (j, i) :: rest) ∨
    (j < i ∧ ∃ first, before = first ++ [(j, i)]) := by
  have hcrossings : crossings n = ((List.finRange n).flatMap fun i =>
      ((List.finRange n).filter (i < ·)).map (i, ·)).flatMap fun p => [p, p.swap] := by
    simp only [crossings, List.flatMap_assoc, List.flatMap_map, Prod.swap_prod_mk]
  rw [hcrossings] at h
  obtain ⟨p, hp, hsplit⟩ := split_swaps h
  have hlt : p.1 < p.2 := by
    obtain ⟨a, b, hab, rfl⟩ : ∃ a b, a < b ∧ (a, b) = p := by simpa using hp
    exact hab
  obtain ⟨rfl, hrest⟩ | ⟨hswap, hfirst⟩ := hsplit
  · exact .inl ⟨hlt, hrest⟩
  · obtain rfl : p = (j, i) := Prod.swap_eq_iff_eq_swap.mp hswap.symm
    exact .inr ⟨hlt, hfirst⟩

/-- A big switch that is given up for want of a route from one host to another, when the routes of
some pairs have been laid down and others are left. -/
structure GivenUp (o : Order) (t : Topology) (trace : List Exchange) (cause : RouteError)
    (i j : Fin o.hosts.length) (laid left : List (Fin o.hosts.length × Fin o.hosts.length)) :
    Prop where
  missing : t.route (o.hosts.get i).port (o.hosts.get j).port = .error cause
  order : crossings o.hosts.length = laid ++ (i, j) :: left
  calls : ∃ (tenant : TenantId) (switch : SwitchId) (routes : List Route),
    (routes.map .ok = laid.map fun (i, j) => t.route (o.hosts.get i).port (o.hosts.get j).port) ∧
    trace.map (·.call) = .getPhysicalTopology :: creation o :: .createSwitch tenant t.switches ::
      routes.map (.createSwitchRoute tenant switch)

section

variable {o : Order} {mode : Mode} {t : Topology} {tenant : TenantId} {switch : SwitchId}
  {hosts : List Host} {trace : List Exchange} {tenant? : Option TenantId} {cause : RouteError}

namespace Plan

theorem sendRoute_unrouted {src dst : Host}
    (h : (sendRoute t tenant switch src dst).Runs trace (.error (.route tenant? cause))) :
    t.route src.port dst.port = .error cause ∧ trace = [] := by
  obtain ⟨e, hroute, rfl, he⟩ | ⟨route, -, hcall⟩ := runs_ofExcept_bind.mp h
  · cases hreply : t.route src.port dst.port with
    | ok route =>
      rw [hreply] at hroute
      cases hroute
    | error cause' =>
      rw [hreply] at hroute
      cases hroute
      cases he
      exact ⟨rfl, rfl⟩
  · obtain ⟨r, -, he⟩ := runs_call.mp hcall
    cases r <;> cases he

theorem sendRoutes_ok {l : List (Host × Host)}
    (h : (l.forM fun (src, dst) => sendRoute t tenant switch src dst).Runs trace (.ok ())) :
    ∃ routes : List Route, (routes.map .ok = l.map fun (src, dst) => t.route src.port dst.port) ∧
      trace.map (·.call) = routes.map (.createSwitchRoute tenant switch) := by
  refine ⟨_, routes_eq ?_, ?_⟩
  · intro p hp
    obtain ⟨part, hpart⟩ := h.forM_ok p hp
    exact exists_route hpart
  · exact (keeps_routes l _ _ h).complete () rfl

theorem bigSwitch_unrouted
    (h : (bigSwitch t tenant hosts).Runs trace (.error (.route tenant? cause))) :
    ∃ (switch : SwitchId) (routes : List Route) (before after : List (Host × Host))
      (src dst : Host), pairs hosts = before ++ (src, dst) :: after ∧
      (routes.map .ok = before.map fun (src, dst) => t.route src.port dst.port) ∧
      t.route src.port dst.port = .error cause ∧
      trace.map (·.call) = .createSwitch tenant t.switches ::
        routes.map (.createSwitchRoute tenant switch) := by
  obtain ⟨failure, -, he⟩ | ⟨switch, after, rfl, hafter⟩ := runs_call_bind.mp h
  · cases he
  obtain ⟨_, hloop, ⟨⟩⟩ | ⟨_, _, _, -, hdone, -⟩ := runs_bind.mp hafter
  · obtain ⟨before, ⟨src, dst⟩, left, done, rest, hpairs, hdone, hlast, rfl⟩ := hloop.forM_error
    obtain ⟨routes, hroutes, hcalls⟩ := sendRoutes_ok hdone
    obtain ⟨hmissing, rfl⟩ := sendRoute_unrouted hlast
    refine ⟨switch, routes, before, left, src, dst, hpairs, hroutes, hmissing, ?_⟩
    rw [List.append_nil, List.map_cons, hcalls]
  · cases (runs_done.mp hdone).2

end Plan

theorem crossings_of_pairs {before after : List (Host × Host)} {src dst : Host}
    (h : pairs hosts = before ++ (src, dst) :: after) : ∃ i j laid left,
      crossings hosts.length = laid ++ (i, j) :: left ∧ hosts.get i = src ∧ hosts.get j = dst ∧
      before = laid.map fun (i, j) => (hosts.get i, hosts.get j) := by
  rw [pairs_eq, List.map_eq_append_iff] at h
  obtain ⟨laid, rest, hsplit, rfl, hrest⟩ := h
  obtain ⟨⟨i, j⟩, left, rfl, heq, -⟩ := List.map_eq_cons_iff.mp hrest
  cases heq
  exact ⟨i, j, laid, left, hsplit, rfl, rfl, rfl⟩

theorem Course.of_unrouted (h : Course o trace (.error (.route tenant? cause))) :
    ∃ d t tenant built, Admitted o .bigSwitch d t ∧
      (Plan.bigSwitch t tenant o.hosts).Runs built (.error (.route tenant? cause)) ∧
      trace = ⟨.getPhysicalTopology, .ok d⟩ :: ⟨creation o, .ok tenant⟩ :: built := by
  cases h with
  | refused he => cases checkOrder_error he
  | misplaced _ _ he => cases checkHosts_error he
  | @created mode d t tenant _ _ hadmitted hrun =>
    have hbuilt := (checkOrder_eq_ok_iff.mp hadmitted.order).built
    obtain ⟨_, _, _, -, -, he⟩ | ⟨-, rfl, -⟩ := hrun.error_cases (construct_stopsWith hbuilt)
    · cases he
    cases Construction.of_runs hrun with
    | unbuilt hbuild => exact ⟨d, t, tenant, _, hadmitted, hbuild, rfl⟩
    | unattached _ hattach =>
      have hstops : (Plan.attach tenant o.hosts).StopsWith fun _ => False :=
        .forM fun host _ => Plan.stopsWith_call _
      obtain ⟨_, _, _, -, -, he⟩ | ⟨-, hfalse⟩ := hattach.error_cases hstops
      · cases he
      · cases hfalse

theorem Course.givenUp (h : Course o trace (.error (.route tenant? cause))) :
    ∃ d t i j laid left, Topology.build d = .ok t ∧ GivenUp o t trace cause i j laid left ∧
      ∃ rest, trace = ⟨.getPhysicalTopology, .ok d⟩ :: rest := by
  obtain ⟨d, t, tenant, built, hadmitted, hbuild, rfl⟩ := h.of_unrouted
  obtain ⟨switch, routes, before, after, src, dst, hpairs, hroutes, hmissing, hcalls⟩ :=
    Plan.bigSwitch_unrouted hbuild
  obtain ⟨i, j, laid, left, hsplit, rfl, rfl, rfl⟩ := crossings_of_pairs hpairs
  refine ⟨d, t, i, j, laid, left, hadmitted.topology, ?_, _, rfl⟩
  constructor
  case missing => exact hmissing
  case order => exact hsplit
  case calls =>
    refine ⟨tenant, switch, routes, ?_, ?_⟩
    · rw [hroutes, List.map_map]
      rfl
    · rw [List.map_cons, List.map_cons, hcalls]

/-- Where routes exist there and back or not at all, the first route to be missing is the one from
the earlier of two hosts. -/
theorem GivenUp.there_first {i j : Fin o.hosts.length}
    {laid left : List (Fin o.hosts.length × Fin o.hosts.length)}
    (h : GivenUp o t trace cause i j laid left) (hmutual : t.Mutual) :
    i < j ∧ (∃ rest, left = (j, i) :: rest) ∧
      ∃ cause', t.route (o.hosts.get j).port (o.hosts.get i).port = .error cause' := by
  obtain ⟨hmissing, horder, tenant, switch, routes, hroutes, -⟩ := h
  obtain ⟨hlt, hrest⟩ | ⟨-, first, rfl⟩ := crossings_split horder
  · refine ⟨hlt, hrest, ?_⟩
    cases hback : t.route (o.hosts.get j).port (o.hosts.get i).port with
    | error cause' => exact ⟨cause', rfl⟩
    | ok back =>
      obtain ⟨there, hthere⟩ := exists_route_back hmutual hback
      cases hmissing.symm.trans hthere
  · -- the route back has been laid down, so that there is one
    have hmem : t.route (o.hosts.get j).port (o.hosts.get i).port ∈ routes.map .ok := by
      rw [hroutes]
      exact List.mem_map.mpr ⟨(j, i), List.mem_concat_self, rfl⟩
    obtain ⟨back, -, hback⟩ := List.mem_map.mp hmem
    obtain ⟨there, hthere⟩ := exists_route_back hmutual hback.symm
    cases hmissing.symm.trans hthere

end

/-- Where neighbours are neighbours of each other, there are routes in both directions between two
ports or in neither, and they are equally long. A big switch that is given up for want of a route is
given up at the route there: the route back is the next in order, and is missing as well. -/
theorem routes_there_and_back (k : Controller σ) {d : Description} {t : Topology}
    (h : Topology.build d = .ok t) (hmutual : t.Mutual) :
    (∀ earlier later entry exit,
      let there := ((Query.route entry exit).run t (PathCache.after t earlier)).1
      let back := ((Query.route exit entry).run t (PathCache.after t later)).1
      ((∃ hops, there = .ok hops) ↔ ∃ hops, back = .ok hops) ∧
        ∀ hops hops', there = .ok hops → back = .ok hops' → hops.length = hops'.length) ∧
    ∀ (o : Order) (s : Session σ), s.Orderly →
      (k.answer .getPhysicalTopology s.controller).1 = .ok d →
      ∃ trace, ((createNetwork k o).run.run s).2.log = s.log ++ trace ∧
        ∀ tenant? cause, ((createNetwork k o).run.run s).1 = .error (.route tenant? cause) →
          ∃ i j laid left, i < j ∧ GivenUp o t trace cause i j laid ((j, i) :: left) ∧
            ∃ cause', t.route (o.hosts.get j).port (o.hosts.get i).port = .error cause' := by
  constructor
  · intro earlier later entry exit there back
    have hthere : there = t.route entry exit := PathCache.run_after t earlier _
    have hback : back = t.route exit entry := PathCache.run_after t later _
    rw [hthere, hback]
    constructor
    · constructor
      · rintro ⟨hops, hhops⟩
        exact exists_route_back hmutual hhops
      · rintro ⟨hops, hhops⟩
        exact exists_route_back hmutual hhops
    · intro hops hops' hhops hhops'
      exact length_route_back hmutual hhops' hhops
  · intro o s hs hd
    obtain ⟨trace, hlog, hreplies, hrun⟩ := createNetwork_converses k o hs
    refine ⟨trace, hlog, fun tenant? cause hreply => ?_⟩
    rw [hreply] at hrun
    obtain ⟨d', t', i, j, laid, left, hbuild, hgivenUp, rest, rfl⟩ := (Course.of_runs hrun).givenUp
    cases hreplies.head.trans hd
    cases h.symm.trans hbuild
    obtain ⟨hlt, ⟨left, rfl⟩, hback⟩ := hgivenUp.there_first hmutual
    exact ⟨i, j, laid, left, hlt, hgivenUp, hback⟩

def unrouted? : Except ProvisioningError α → Option (Option TenantId × RouteError)
  | .error (.route tenant? cause) => some (tenant?, cause)
  | _ => none

theorem eq_error_of_unrouted? {r : Except ProvisioningError α} {tenant? : Option TenantId}
    {cause : RouteError} (h : unrouted? r = some (tenant?, cause)) :
    r = .error (.route tenant? cause) := by
  unfold unrouted? at h
  split at h
  · cases h
    rfl
  · cases h

def apart : Order where
  network := ⟨"bigswitch", "tcp", "10.0.0.1", 6633, "10.1.0.0/16"⟩
  hosts := [⟨⟨1⟩, 9, "aa"⟩, ⟨⟨4⟩, 0, "bb"⟩, ⟨⟨6⟩, 6, "cc"⟩]

theorem routes_there_and_back_square :
    let c := PathCache.after builtSquare []
    let there := ((Query.route ⟨⟨1⟩, 9⟩ ⟨⟨4⟩, 0⟩).run builtSquare c).1
    let back := ((Query.route ⟨⟨4⟩, 0⟩ ⟨⟨1⟩, 9⟩).run builtSquare c).1
    let cause : RouteError := .noRoute ⟨1⟩ ⟨6⟩ (.disconnected ⟨1⟩ ⟨6⟩)
    Topology.build square = .ok builtSquare ∧ builtSquare.Mutual ∧
    there = .ok [⟨9, ⟨1⟩, 1⟩, ⟨9, ⟨2⟩, 1⟩, ⟨1, ⟨4⟩, 0⟩] ∧ (∃ hops, back = .ok hops) ∧
    Session.used.Orderly ∧
    ((createNetwork (counting square none) apart).run.run .used).1 =
      .error (.route (some ⟨7⟩) cause) ∧
    ∃ trace i j laid left, i < j ∧
      GivenUp apart builtSquare trace cause i j laid ((j, i) :: left) := by
  intro c there back cause
  have hmutual := mutual_of_cabled build_square square_cabled
  have hthere : there = .ok [⟨9, ⟨1⟩, 1⟩, ⟨9, ⟨2⟩, 1⟩, ⟨1, ⟨4⟩, 0⟩] := by decide +kernel
  have hreply : ((createNetwork (counting square none) apart).run.run .used).1 =
      .error (.route (some ⟨7⟩) cause) := eq_error_of_unrouted? (by decide +kernel)
  obtain ⟨hroutes, hnetwork⟩ := routes_there_and_back (counting square none) build_square hmutual
  obtain ⟨trace, -, hgivenUp⟩ := hnetwork apart .used Session.orderly_used rfl
  obtain ⟨i, j, laid, left, hlt, hgivenUp, -⟩ := hgivenUp _ _ hreply
  exact ⟨build_square, hmutual, hthere, (hroutes [] [] _ _).1.mp ⟨_, hthere⟩,
    Session.orderly_used, hreply, trace, i, j, laid, left, hlt, hgivenUp⟩

end Overlay.Planner
