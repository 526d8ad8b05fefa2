import Overlay.Proofs.Planner.Conversation

namespace Overlay.Planner

open Controller Fabric Routing Tenant

def hostRoutes (t : Topology) (hosts : List Host) : List Route :=
  (pairs hosts).flatMap fun (src, dst) => (t.route src.port dst.port).toOption.toList

def buildCalls (t : Topology) (tenant : TenantId) (hosts : List Host) (switch : SwitchId) :
    Mode → List Call
  | .bigSwitch =>
    .createSwitch tenant t.switches :: (hostRoutes t hosts).map (.createSwitchRoute tenant switch)
  | .physical =>
    t.switches.map (.createSwitch tenant [·]) ++ t.links.map (.createLink tenant ·.pathText)
  | .custom => []

def constructCalls (o : Order) (mode : Mode) (t : Topology) (tenant : TenantId)
    (switch : SwitchId) : List Call :=
  buildCalls t tenant o.hosts switch mode ++ o.hosts.map (attachment tenant) ++
    [.startNetwork tenant]

def switchId? : Exchange → Option SwitchId
  | ⟨.createSwitch .., .ok switch⟩ => some switch
  | _ => none

/-- How a workflow and its calls go together. -/
structure FailStop (o : Order) (trace : List Exchange) (reply : Except ProvisioningError Summary) :
    Prop where
  ordered : trace.map (·.call) <+: [.getPhysicalTopology, creation o] ∨
    ∃ mode d t tenant rest switch, Admitted o mode d t ∧
      trace = ⟨.getPhysicalTopology, .ok d⟩ :: ⟨creation o, .ok tenant⟩ :: rest ∧
      rest.map (·.call) <+: constructCalls o mode t tenant switch
  tenant : ∀ before r after, trace = before ++ ⟨creation o, r⟩ :: after →
    ∀ x ∈ after, ∃ tenant, r = .ok tenant ∧ x.call.tenant? = some tenant
  switch : ∀ tenant switch route r, ⟨.createSwitchRoute tenant switch route, r⟩ ∈ trace →
    trace.filterMap switchId? = [switch]
  stops : ∀ before x after failure, trace = before ++ x :: after → x.reply = .error failure →
    after = [] ∧ reply = .error (.controller (.ofCall x.call) x.call.tenant? failure)
  starts : ∀ before tenant r after, trace = before ++ ⟨.startNetwork tenant, r⟩ :: after →
    after = [] ∧ (∀ x ∈ before, x.Succeeded) ∧
      o.hosts.map (attachment tenant) <:+ before.map (·.call)
  succeeds : (∃ summary, reply = .ok summary) ↔
    ∃ tenant, ⟨.startNetwork tenant, .ok ()⟩ ∈ trace

theorem eq_of_prefix_concat {l₁ l₂ l : List α} {a b : α} (h : l₁ ++ a :: l₂ <+: l ++ [b])
    (ha : a ∉ l) : l₁ = l ∧ a = b ∧ l₂ = [] := by
  have hmem : ∀ init, l₁ ++ a :: init <+: l → False := by
    intro init hinit
    exact ha (hinit.subset (by simp))
  obtain heq | h := List.prefix_concat_iff.mp h
  · obtain rfl | ⟨init, last, rfl⟩ := List.eq_nil_or_concat l₂
    · obtain ⟨hl, hab⟩ := List.append_inj' heq rfl
      exact ⟨hl, List.head_eq_of_cons_eq hab, rfl⟩
    · rw [List.concat_eq_append, ← List.cons_append, ← List.append_assoc] at heq
      obtain ⟨rfl, -⟩ := List.append_inj' heq rfl
      exact absurd (List.prefix_refl _) (hmem init)
  · exact absurd h (hmem l₂)

theorem exists_before_of_cons_eq {l before after : List α} {a b : α}
    (h : b :: l = before ++ a :: after) (hne : b ≠ a) :
    ∃ rest, before = b :: rest ∧ l = rest ++ a :: after := by
  obtain ⟨-, heq⟩ | hrest := List.cons_eq_append_iff.mp h
  · exact absurd (List.head_eq_of_cons_eq heq).symm hne
  · exact hrest

section

variable {o : Order} {mode : Mode} {t : Topology} {tenant : TenantId} {switch : SwitchId}
  {hosts : List Host} {c : Call} {trace : List Exchange}

theorem tenant?_of_mem_buildCalls (h : c ∈ buildCalls t tenant hosts switch mode) :
    c.tenant? = some tenant := by
  cases mode with
  | bigSwitch =>
    obtain rfl | ⟨route, -, rfl⟩ := by simpa [buildCalls] using h
    · rfl
    · rfl
  | physical =>
    obtain ⟨d, -, rfl⟩ | ⟨l, -, rfl⟩ := by simpa [buildCalls] using h
    · rfl
    · rfl
  | custom => cases h

theorem tenant?_of_mem_constructCalls (h : c ∈ constructCalls o mode t tenant switch) :
    c.tenant? = some tenant := by
  obtain h | ⟨host, -, rfl⟩ | rfl := by simpa [constructCalls] using h
  · exact tenant?_of_mem_buildCalls h
  · rfl
  · rfl

theorem start_not_mem (tenant' : TenantId) : .startNetwork tenant' ∉
    buildCalls t tenant hosts switch mode ++ hosts.map (attachment tenant) := by
  cases mode <;> simp [buildCalls, attachment]

namespace Plan

theorem keeps_sendRoute (src dst : Host) : (sendRoute t tenant switch src dst).Keeps
    ((t.route src.port dst.port).toOption.toList.map (.createSwitchRoute tenant switch)) := by
  rw [sendRoute, route]
  cases t.route src.port dst.port with
  | error cause => exact keeps_ofExcept (.error (.route (some tenant) cause))
  | ok route => exact keeps_call _

theorem keeps_routes (l : List (Host × Host)) :
    (l.forM fun (src, dst) => sendRoute t tenant switch src dst).Keeps
    ((l.flatMap fun ((src, dst) : Host × Host) =>
      (t.route src.port dst.port).toOption.toList).map (.createSwitchRoute tenant switch)) := by
  rw [List.map_flatMap]
  exact .forM fun (src, dst) => keeps_sendRoute src dst

theorem keeps_physical :
    (physical t tenant).Keeps (buildCalls t tenant hosts switch .physical) := by
  rw [physical, buildCalls, ← List.append_nil (t.links.map _), List.map_eq_flatMap,
    List.map_eq_flatMap]
  refine .bind (.mapM fun d => keeps_call _) fun switches => ?_
  exact .bind (.forM fun l => keeps_call _) fun _ => keeps_ofExcept (.ok _)

theorem keeps_attach : (attach tenant hosts).Keeps (hosts.map (attachment tenant)) := by
  rw [attach, List.map_eq_flatMap]
  exact .forM fun h => keeps_call _

variable {reply : Except ProvisioningError Build}

theorem bigSwitch_cases (h : (bigSwitch t tenant hosts).Runs trace reply) :
    (∃ failure, trace = [⟨.createSwitch tenant t.switches, .error failure⟩] ∧
      reply = .error (.controller .createSwitch (some tenant) failure)) ∨
    ∃ switch after, trace = ⟨.createSwitch tenant t.switches, .ok switch⟩ :: after ∧
      Issues ((hostRoutes t hosts).map (.createSwitchRoute tenant switch)) after reply := by
  obtain h | ⟨switch, after, rfl, hroutes⟩ := runs_call_bind.mp h
  · exact .inl h
  · refine .inr ⟨switch, after, rfl, ?_⟩
    rw [← List.append_nil (List.map _ _)]
    exact Keeps.bind (keeps_routes _) (fun _ => keeps_ofExcept (.ok _)) _ _ hroutes

theorem build_issues (h : (build t tenant hosts mode).Runs trace reply) :
    ∃ switch, Issues (buildCalls t tenant hosts switch mode) trace reply := by
  cases mode with
  | bigSwitch =>
    obtain ⟨failure, rfl, rfl⟩ | ⟨switch, after, rfl, hafter⟩ := bigSwitch_cases h
    · exact ⟨⟨0⟩, List.prefix_append [_] _, nofun⟩
    · refine ⟨switch, List.prefix_cons_inj _ |>.mpr hafter.ordered, ?_⟩
      intro b hb
      exact congrArg _ (hafter.complete b hb)
  | physical => exact ⟨⟨0⟩, keeps_physical _ _ h⟩
  | custom =>
    obtain ⟨rfl, -⟩ := runs_stop.mp h
    exact ⟨⟨0⟩, List.prefix_refl _, fun _ _ => rfl⟩

end Plan

theorem switchIds_eq_nil (h : ∀ x ∈ trace, ∀ tenant ds, x.call ≠ .createSwitch tenant ds) :
    trace.filterMap switchId? = [] := by
  rw [List.filterMap_eq_nil_iff]
  intro x hx
  rcases x with ⟨c, r⟩
  cases c with
  | createSwitch tenant ds => exact absurd rfl (h _ hx tenant ds)
  | _ => rfl

theorem switchIds_of_attached
    (h : ∀ x ∈ trace, x.call ∈ hosts.map (attachment tenant) ++ [.startNetwork tenant]) :
    trace.filterMap switchId? = [] := by
  apply switchIds_eq_nil
  intro x hx tenant ds heq
  simpa [heq, attachment] using h x hx

theorem Plan.switchIds_of_build {reply : Except ProvisioningError Build} {tenant' : TenantId}
    {route : Route} {r : Except Failure Unit} (h : (build t tenant hosts mode).Runs trace reply)
    (hroute : ⟨.createSwitchRoute tenant' switch route, r⟩ ∈ trace) :
    trace.filterMap switchId? = [switch] := by
  cases mode with
  | bigSwitch =>
    obtain ⟨failure, rfl, rfl⟩ | ⟨switch', after, rfl, hafter⟩ := bigSwitch_cases h
    · simp at hroute
    · have hcalls : ∀ x ∈ after, ∃ route, x.call = .createSwitchRoute tenant switch' route := by
        intro x hx
        obtain ⟨route, -, hcall⟩ := List.mem_map.mp (hafter.mem hx)
        exact ⟨route, hcall.symm⟩
      cases hroute with
      | tail _ hroute =>
        obtain ⟨_, heq⟩ := hcalls _ hroute
        cases heq
        refine congrArg _ (switchIds_eq_nil ?_)
        intro x hx tenant ds heq
        obtain ⟨_, heq'⟩ := hcalls x hx
        rw [heq] at heq'
        cases heq'
  | physical =>
    obtain ⟨switch', hissues⟩ := build_issues h
    simpa [buildCalls] using hissues.mem hroute
  | custom =>
    obtain ⟨rfl, -⟩ := runs_stop.mp h
    cases hroute

theorem Plan.attach_issues {built attached : List Exchange} {b : Build}
    {reply : Except ProvisioningError Unit}
    (hbuild : (build t tenant hosts mode).Runs built (.ok b))
    (hattach : (attach tenant hosts).Runs attached reply) : ∃ switch,
      Issues (buildCalls t tenant hosts switch mode ++ hosts.map (attachment tenant))
        (built ++ attached) reply := by
  obtain ⟨switch, hissues⟩ := build_issues hbuild
  exact ⟨switch, hissues.append (keeps_attach _ _ hattach)⟩

namespace Construction

variable {reply : Except ProvisioningError Summary}

theorem issues (h : Construction o mode t tenant trace reply) :
    ∃ switch, Plan.Issues (constructCalls o mode t tenant switch) trace reply := by
  cases h with
  | unbuilt hbuild =>
    obtain ⟨switch, hissues⟩ := Plan.build_issues hbuild
    refine ⟨switch, ?_⟩
    rw [constructCalls, List.append_assoc]
    exact hissues.cut
  | unattached hbuild hattach =>
    obtain ⟨switch, hissues⟩ := Plan.attach_issues hbuild hattach
    exact ⟨switch, hissues.cut⟩
  | unstarted f hbuild hattach =>
    obtain ⟨switch, hissues⟩ := Plan.attach_issues hbuild hattach
    exact ⟨switch, hissues.append (Plan.issues_one ⟨.startNetwork tenant, .error f⟩)⟩
  | started hbuild hattach =>
    obtain ⟨switch, hissues⟩ := Plan.attach_issues hbuild hattach
    exact ⟨switch, hissues.append (Plan.issues_one ⟨.startNetwork tenant, .ok ()⟩)⟩

theorem exists_build (h : Construction o mode t tenant trace reply) : ∃ built rest reply',
    (Plan.build t tenant o.hosts mode).Runs built reply' ∧ trace = built ++ rest ∧
      Plan.Issues (o.hosts.map (attachment tenant) ++ [.startNetwork tenant]) rest reply := by
  cases h with
  | unbuilt hbuild =>
    exact ⟨_, [], _, hbuild, (List.append_nil _).symm, List.nil_prefix, nofun⟩
  | unattached hbuild hattach =>
    exact ⟨_, _, _, hbuild, rfl, (Plan.keeps_attach _ _ hattach).cut⟩
  | unstarted f hbuild hattach =>
    refine ⟨_, _, _, hbuild, List.append_assoc _ _ _, ?_⟩
    exact (Plan.keeps_attach _ _ hattach).append (Plan.issues_one ⟨.startNetwork tenant, .error f⟩)
  | started hbuild hattach =>
    refine ⟨_, _, _, hbuild, List.append_assoc _ _ _, ?_⟩
    exact (Plan.keeps_attach _ _ hattach).append (Plan.issues_one ⟨.startNetwork tenant, .ok ()⟩)

theorem switchIds {tenant' : TenantId} {route : Route} {r : Except Failure Unit}
    (h : Construction o mode t tenant trace reply)
    (hroute : ⟨.createSwitchRoute tenant' switch route, r⟩ ∈ trace) :
    trace.filterMap switchId? = [switch] := by
  obtain ⟨built, rest, reply', hbuild, rfl, hrest⟩ := h.exists_build
  have hnone := switchIds_of_attached fun x => hrest.mem (x := x)
  have hmem : ⟨.createSwitchRoute tenant' switch route, r⟩ ∈ built := by
    apply (List.mem_append.mp hroute).resolve_right
    intro hx
    simpa [attachment] using hrest.mem hx
  rw [List.filterMap_append, hnone, List.append_nil]
  exact Plan.switchIds_of_build hbuild hmem

theorem start_last {before after : List Exchange} {tenant' : TenantId} {r : Except Failure Unit}
    (h : Construction o mode t tenant trace reply)
    (htrace : trace = before ++ ⟨.startNetwork tenant', r⟩ :: after) :
    after = [] ∧ tenant' = tenant ∧ o.hosts.map (attachment tenant) <:+ before.map (·.call) := by
  obtain ⟨switch, hissues⟩ := h.issues
  have hcalls := hissues.ordered
  rw [htrace, List.map_append, List.map_cons] at hcalls
  obtain ⟨hbefore, hstart, hafter⟩ := eq_of_prefix_concat hcalls (start_not_mem tenant')
  cases hstart
  refine ⟨List.map_eq_nil_iff.mp hafter, rfl, ?_⟩
  rw [hbefore]
  exact List.suffix_append _ _

theorem ok_iff (h : Construction o mode t tenant trace reply) :
    (∃ summary, reply = .ok summary) ↔ ∃ tenant, ⟨.startNetwork tenant, .ok ()⟩ ∈ trace := by
  constructor
  · rintro ⟨summary, rfl⟩
    cases h with
    | started hbuild hattach => exact ⟨tenant, List.mem_concat_self⟩
  · rintro ⟨tenant', hstart⟩
    cases h with
    | unbuilt hbuild =>
      obtain ⟨switch, hissues⟩ := Plan.build_issues hbuild
      exact absurd (List.mem_append_left _ (hissues.mem hstart)) (start_not_mem tenant')
    | unattached hbuild hattach =>
      obtain ⟨switch, hissues⟩ := Plan.attach_issues hbuild hattach
      exact absurd (hissues.mem hstart) (start_not_mem tenant')
    | unstarted f hbuild hattach =>
      obtain ⟨switch, hissues⟩ := Plan.attach_issues hbuild hattach
      obtain hstart | hstart := List.mem_append.mp hstart
      · exact absurd (hissues.mem hstart) (start_not_mem tenant')
      · cases List.mem_singleton.mp hstart
    | started hbuild hattach => exact ⟨_, rfl⟩

end Construction

namespace Course

variable {before after : List Exchange} {reply : Except ProvisioningError Summary}

theorem created_or (h : Course o trace reply) :
    (trace.map (·.call) <+: [.getPhysicalTopology, creation o] ∧ ∃ e, reply = .error e) ∨
    ∃ mode d t tenant rest, Admitted o mode d t ∧ Construction o mode t tenant rest reply ∧
      trace = ⟨.getPhysicalTopology, .ok d⟩ :: ⟨creation o, .ok tenant⟩ :: rest := by
  cases h with
  | refused => exact .inl ⟨List.nil_prefix, _, rfl⟩
  | unfetched f => exact .inl ⟨List.prefix_append [_] [_], _, rfl⟩
  | malformed => exact .inl ⟨List.prefix_append [_] [_], _, rfl⟩
  | misplaced => exact .inl ⟨List.prefix_append [_] [_], _, rfl⟩
  | uncreated f => exact .inl ⟨List.prefix_refl _, _, rfl⟩
  | created hadmitted hrun => exact .inr ⟨_, _, _, _, _, hadmitted, .of_runs hrun, rfl⟩

theorem of_ok {summary : Summary} (h : Course o trace (.ok summary)) :
    ∃ mode d t tenant built b rest, Admitted o mode d t ∧
      (Plan.build t tenant o.hosts mode).Runs built (.ok b) ∧
      trace = ⟨.getPhysicalTopology, .ok d⟩ :: ⟨creation o, .ok tenant⟩ :: (built ++ rest) ∧
      rest.map (·.call) = o.hosts.map (attachment tenant) ++ [.startNetwork tenant] ∧
      summary = ⟨tenant, mode.name, b.switches, o.hosts.length, b.routes, b.links⟩ := by
  cases h with
  | created hadmitted hrun =>
    cases Construction.of_runs hrun with
    | started hbuild hattach =>
      refine ⟨_, _, _, _, _, _, _, hadmitted, hbuild, by rw [List.append_assoc], ?_, rfl⟩
      rw [List.map_append, (Plan.keeps_attach _ _ hattach).complete () rfl]
      rfl

theorem tenant?_eq_none_of_calls {x : Exchange}
    (h : trace.map (·.call) <+: [.getPhysicalTopology, creation o]) (hx : x ∈ trace) :
    x.call.tenant? = none := by
  obtain hcall | hcall : x.call = .getPhysicalTopology ∨ x.call = creation o := by
    simpa using h.subset (List.mem_map_of_mem hx)
  · rw [hcall]
    rfl
  · rw [hcall]
    rfl

theorem tenant_of_created {r : Except Failure (creation o).Reply} (h : Course o trace reply)
    (htrace : trace = before ++ ⟨creation o, r⟩ :: after) :
    ∀ x ∈ after, ∃ tenant, r = .ok tenant ∧ x.call.tenant? = some tenant := by
  obtain ⟨hcalls, -⟩ | ⟨mode, d, t, tenant, rest, -, hconstruct, rfl⟩ := h.created_or
  · rw [htrace, List.map_append, List.map_cons] at hcalls
    have hnot : creation o ∉ [Call.getPhysicalTopology] := by simp [creation]
    obtain ⟨-, -, hafter⟩ := eq_of_prefix_concat hcalls hnot
    rw [List.map_eq_nil_iff.mp hafter]
    exact List.forall_mem_nil _
  · obtain ⟨switch, hissues⟩ := hconstruct.issues
    have hrest : ∀ x ∈ rest, x.call.tenant? = some tenant :=
      fun x hx => tenant?_of_mem_constructCalls (hissues.mem hx)
    obtain ⟨_, -, htrace'⟩ := exists_before_of_cons_eq htrace nofun
    -- The creation cannot come later: no call of the rest is without a network.
    obtain ⟨-, heq⟩ | ⟨_, -, hsplit⟩ := List.cons_eq_append_iff.mp htrace'
    · cases heq
      intro x hx
      exact ⟨tenant, rfl, hrest x hx⟩
    · have := hrest ⟨creation o, r⟩ (hsplit ▸ List.mem_append_right _ (.head _))
      cases this

theorem switchIds {route : Route} {r : Except Failure Unit} (h : Course o trace reply)
    (hroute : ⟨.createSwitchRoute tenant switch route, r⟩ ∈ trace) :
    trace.filterMap switchId? = [switch] := by
  obtain ⟨hcalls, -⟩ | ⟨mode, d, t, _, rest, -, hconstruct, rfl⟩ := h.created_or
  · cases tenant?_eq_none_of_calls hcalls hroute
  · have hmem : ⟨.createSwitchRoute tenant switch route, r⟩ ∈ rest := by
      simpa [creation] using hroute
    exact hconstruct.switchIds hmem

theorem start_last {r : Except Failure Unit} (h : Course o trace reply)
    (htrace : trace = before ++ ⟨.startNetwork tenant, r⟩ :: after) :
    after = [] ∧ o.hosts.map (attachment tenant) <:+ before.map (·.call) := by
  obtain ⟨hcalls, -⟩ | ⟨mode, d, t, _, rest, -, hconstruct, rfl⟩ := h.created_or
  · have hmem : ⟨.startNetwork tenant, r⟩ ∈ trace := htrace ▸ List.mem_append_right _ (.head _)
    cases tenant?_eq_none_of_calls hcalls hmem
  · obtain ⟨_, rfl, htrace'⟩ := exists_before_of_cons_eq htrace nofun
    obtain ⟨_, rfl, hrest⟩ := exists_before_of_cons_eq htrace' nofun
    obtain ⟨hafter, rfl, hsuffix⟩ := hconstruct.start_last hrest
    exact ⟨hafter, hsuffix.trans (List.suffix_append [_, _] _)⟩

theorem ok_iff (h : Course o trace reply) : (∃ summary, reply = .ok summary) ↔
    ∃ tenant, ⟨.startNetwork tenant, .ok ()⟩ ∈ trace := by
  obtain ⟨hcalls, e, rfl⟩ | ⟨mode, d, t, tenant, rest, -, hconstruct, rfl⟩ := h.created_or
  · constructor
    · nofun
    · rintro ⟨tenant, hmem⟩
      cases tenant?_eq_none_of_calls hcalls hmem
  · rw [hconstruct.ok_iff]
    simp [creation]

end Course

theorem failStop_of_runs {reply : Except ProvisioningError Summary}
    (h : (Plan.network o).Runs trace reply) : FailStop o trace reply := by
  have hcourse := Course.of_runs h
  constructor
  case ordered =>
    obtain ⟨hcalls, -⟩ | ⟨mode, d, t, tenant, rest, hadmitted, hconstruct, rfl⟩ :=
      hcourse.created_or
    · exact .inl hcalls
    · obtain ⟨switch, hissues⟩ := hconstruct.issues
      exact .inr ⟨mode, d, t, tenant, rest, switch, hadmitted, rfl, hissues.ordered⟩
  case tenant => exact fun before r after htrace => hcourse.tenant_of_created htrace
  case switch => exact fun tenant switch route r hroute => hcourse.switchIds hroute
  case stops => exact fun before x after failure htrace hx => h.failed_last htrace hx
  case starts =>
    intro before tenant r after htrace
    obtain ⟨hafter, hsuffix⟩ := hcourse.start_last htrace
    exact ⟨hafter, fun x hx => h.succeeded_before htrace hx, hsuffix⟩
  case succeeds => exact hcourse.ok_iff

end

/-- Building a network stops at the first call that the controller fails, and ends well exactly when
the controller has started the network. -/
theorem createNetwork_failStop (k : Controller σ) (o : Order) {s : Session σ} (hs : s.Orderly) :
    ∃ trace, ((createNetwork k o).run.run s).2.log = s.log ++ trace ∧
      Replies k s.controller trace ((createNetwork k o).run.run s).2.controller ∧
      FailStop o trace ((createNetwork k o).run.run s).1 := by
  obtain ⟨trace, hlog, hreplies, hrun⟩ := createNetwork_converses k o hs
  exact ⟨trace, hlog, hreplies, failStop_of_runs hrun⟩

theorem createNetwork_failStop_diamond :
    let k := counting diamond (some 3)
    let o := twoHosts " BigSwitch" ⟨1⟩ ⟨4⟩
    Session.used.Orderly ∧ ∃ trace, Replies k 0 trace 4 ∧
      FailStop o trace ((createNetwork k o).run.run .used).1 ∧
      trace.map (·.call) = [.getPhysicalTopology, creation o,
        .createSwitch ⟨7⟩ builtDiamond.switches,
        .createSwitchRoute ⟨7⟩ ⟨2⟩ [⟨5, ⟨1⟩, 1⟩, ⟨1, ⟨2⟩, 65535⟩, ⟨2, ⟨4⟩, 6⟩]] := by
  intro k o
  obtain ⟨trace, hlog, hreplies, hfailStop⟩ := createNetwork_failStop k o Session.orderly_used
  have hasked : ((createNetwork k o).run.run .used).2.controller = 4 := by decide +kernel
  rw [hasked] at hreplies
  refine ⟨Session.orderly_used, trace, hreplies, hfailStop, ?_⟩
  rw [← hlog.trans (List.nil_append trace)]
  decide +kernel

end Overlay.Planner
