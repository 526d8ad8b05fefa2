import Overlay.Proofs.Planner.Ledger
import Overlay.Proofs.Routing.Route

namespace Overlay.Planner

open Controller Fabric JsonRpc Routing Tenant

inductive Told (r : RouteRequest) (snapshot : Snapshot) : Except ErrorObject Json → Prop
  | route {route : Route} : snapshot.topology.route r.entry r.exit = .ok route →
    Told r snapshot (.ok (.obj
      [("snapshot", .ofWord snapshot.generation), ("route", Route.codec.encode route)]))
  | missing {src dst : Dpid} {cause : TopologyError} :
    snapshot.topology.route r.entry r.exit = .error (.noRoute src dst cause) →
    Told r snapshot (.error
      { code := -32602, message := (RouteError.noRoute src dst cause).message })

def Untold (outcome : Except ErrorObject Json) : Prop :=
  ∃ err data, outcome = .error err ∧ err.code = -32603 ∧ err.data = some data ∧
    data.member? "step" = some (.str "fetchTopology") ∧ data.member? "tenantId" = none

/-- What a request for a route asks of the controller, and its outcome by the snapshot there is in
the end. -/
structure RouteAnswered (r : RouteRequest) (s : Session σ) (trace : List Exchange)
    (s' : Session σ) (outcome : Except ErrorObject Json) : Prop where
  unasked : s.store.current?.isSome → trace = []
  asked : s.store.current? = none → ∃ reply, trace = [⟨.getPhysicalTopology, reply⟩]
  available : s.store.current?.isSome ∨ fetched trace ≠ [] →
    ∃ snapshot, s'.store.current? = some snapshot ∧ Told r snapshot outcome
  unavailable : s.store.current? = none → fetched trace = [] → Untold outcome

section

variable {k : Controller σ} {s s' : Session σ} {r : RouteRequest}

def routeOutcome (reply : Except ProvisioningError RoutePlan) : Except ErrorObject Json :=
  (reply.map RoutePlan.codec.encode).mapError routeReport

theorem told_planIn (r : RouteRequest) (snapshot : Snapshot) :
    Told r snapshot (routeOutcome (planIn r snapshot)) := by
  rw [planIn]
  cases hroute : snapshot.topology.route r.entry r.exit with
  | ok route => exact .route hroute
  | error e =>
    cases e with
    | noRoute src dst cause => exact .missing hroute
    | noLink a b => exact absurd hroute (route_ne_noLink _ _ a b)

theorem untold_of_refreshed {e : ProvisioningError} (h : Refreshed k s (.error e) s') :
    Untold (routeOutcome (.error e)) := by
  obtain ⟨hstage, htenant, hreport⟩ :
      e.stage? = some .fetchTopology ∧ e.tenant? = none ∧ routeReport e = e.toErrorObject := by
    cases h with
    | unfetched => exact ⟨rfl, rfl, rfl⟩
    | malformed => exact ⟨rfl, rfl, rfl⟩
  obtain ⟨hcode, data, hdata, hstep, hnone⟩ := toErrorObject_of_stage hstage
  refine ⟨_, data, rfl, ?_⟩
  rw [hreport]
  rw [htenant] at hnone
  exact ⟨hcode, hdata, hstep, hnone⟩

theorem Planned.answered {reply : Except ProvisioningError RoutePlan} (h : Planned k s r reply s') :
    ∃ trace, s'.log = s.log ++ trace ∧ RouteAnswered r s trace s' (routeOutcome reply) := by
  cases h with
  | @held snapshot hcurrent =>
    refine ⟨[], (List.append_nil _).symm, fun _ => rfl, ?_, ?_, ?_⟩
    · rw [hcurrent]
      exact nofun
    · exact fun _ => ⟨snapshot, hcurrent, told_planIn r snapshot⟩
    · rw [hcurrent]
      exact nofun
  | @fetched snapshot s₁ hcurrent hrefreshed =>
    obtain ⟨reply, hlog, hsome⟩ := hrefreshed.exchange
    refine ⟨_, hlog, ?_, fun _ => ⟨reply, rfl⟩, ?_, ?_⟩
    · rw [hcurrent]
      exact nofun
    · exact fun _ => ⟨snapshot, hrefreshed.current, told_planIn r snapshot⟩
    · intro _ hnone
      rw [fetched_singleton, hsome] at hnone
      cases hnone
  | @failed e _ hcurrent hrefreshed =>
    obtain ⟨reply, hlog, hnone⟩ := hrefreshed.exchange
    refine ⟨_, hlog, ?_, fun _ => ⟨reply, rfl⟩, ?_, fun _ _ => untold_of_refreshed hrefreshed⟩
    · rw [hcurrent]
      exact nofun
    · rw [hcurrent, fetched_singleton, hnone]
      simp [Except.toOption]

theorem getRouteMethod_run {id params : Json} (hparams : RouteRequest.codec.decode params = .ok r) :
    (getRouteMethod k id params).run s =
      (completionOf (routeOutcome ((planRoute k r).run.run s).1),
        ((planRoute k r).run.run s).2) := by
  unfold getRouteMethod
  rw [readParams, hparams]
  exact run_completion routeReport (planRoute k r) RoutePlan.codec s

theorem answer_getRoute {v : Json} {e : Envelope} (he : Envelope.ofJson v = .ok e)
    (hmethod : e.method = "getRoute") (hparams : RouteRequest.codec.decode e.params = .ok r) :
    ((methods k).answer v).run s =
      (⟨version, e.id, routeOutcome ((planRoute k r).run.run s).1⟩,
        ((planRoute k r).run.run s).2) := by
  have hfound : (methods k).find? e.method = some (getRouteMethod k) := by
    rw [hmethod, methods_eq, Methods.find?_registered]
    exact ⟨(handlers k).take 1, (handlers k).drop 2, rfl, by simp [handlers]⟩
  rw [Methods.answer_of_found he hfound, getRouteMethod_run hparams]
  simp only [outcome_completionOf]

end

/-- A request for a route asks for a topology if there is none, and for nothing else. With a
topology it is answered by the route in that topology, whatever has been asked before. If nobody
else installs anything, that is the topology fetched last. -/
theorem answer_route (k : Controller σ) (c : σ) (messages : List Json) {v : Json} {e : Envelope}
    {r : RouteRequest} (he : Envelope.ofJson v = .ok e) (hmethod : e.method = "getRoute")
    (hparams : RouteRequest.codec.decode e.params = .ok r) :
    let s := Session.after k ⟨c, {}, []⟩ messages
    let answer := ((methods k).answer v).run s
    ∃ trace, answer.2.log = s.log ++ trace ∧
      Replies k s.controller trace answer.2.controller ∧ answer.1.id = e.id ∧
      RouteAnswered r s trace answer.2 answer.1.outcome ∧
      (k.Quiet → ∀ snapshot, answer.2.store.current? = some snapshot →
        (fetched answer.2.log).getLast? = some snapshot.topology ∧
        snapshot.generation = .ofNat (fetched answer.2.log).length) := by
  intro s answer
  have hs : s.Orderly :=
    Session.after_of_served (fun _ _ hs h => h.orderly hs) (Session.orderly_start c []) messages
  obtain ⟨trace, hlog, hanswered⟩ := (planned k r hs).answered
  have hanswer : answer = _ := answer_getRoute he hmethod hparams
  obtain ⟨more, hmore, hreplies⟩ := (served k v s).goesOn (.refl k s)
  have htrace : answer.2.log = s.log ++ trace := by rw [hanswer, hlog]
  obtain rfl : more = trace := List.append_cancel_left (hmore.symm.trans htrace)
  refine ⟨more, htrace, hreplies, by rw [hanswer], by rwa [hanswer], ?_⟩
  intro hquiet snapshot hcurrent
  obtain ⟨-, -, haccounted⟩ := Session.after_accounted hquiet c (messages ++ [v])
  rw [Session.after_concat] at haccounted
  have hnumbered := haccounted.current
  rw [Session.current?, hcurrent] at hnumbered
  obtain ⟨t, hlast, heq⟩ := Option.map_eq_some_iff.mp hnumbered.symm
  obtain ⟨hgeneration, rfl⟩ := Prod.mk.inj heq
  exact ⟨hlast, hgeneration.symm⟩

def acrossDiamond : RouteRequest := ⟨⟨1⟩, 9, ⟨4⟩, 0⟩

theorem answer_route_diamond :
    let k := undisturbed diamond (some 1)
    let s := Session.after k ⟨0, {}, []⟩ [requestFor (twoHosts "bigswitch" ⟨1⟩ ⟨4⟩)]
    let params := RouteRequest.codec.encode acrossDiamond
    let v := Request.codec.encode { method := "getRoute", params, id := .int 1 }
    let answer := ((methods k).answer v).run s
    Envelope.ofJson v = .ok ⟨.int 1, "getRoute", params⟩ ∧
    RouteRequest.codec.decode params = .ok acrossDiamond ∧ k.Quiet ∧
    answer.2.log = s.log ∧ ∃ snapshot, snapshot.generation = 1 ∧
      snapshot.topology = builtDiamond ∧ Told acrossDiamond snapshot answer.1.outcome := by
  intro k s params v answer
  have he : Envelope.ofJson v = .ok ⟨.int 1, "getRoute", params⟩ := ofJson_request "getRoute" _
  have hparams : RouteRequest.codec.decode params = .ok acrossDiamond :=
    eq_ok_of_toOption (by decide +kernel)
  have hquiet : k.Quiet := fun _ _ => rfl
  have hheld : s.store.current?.isSome := by decide +kernel
  obtain ⟨trace, hlog, -, -, hanswered, hlast⟩ :=
    answer_route k 0 [requestFor (twoHosts "bigswitch" ⟨1⟩ ⟨4⟩)] he rfl hparams
  obtain rfl := hanswered.unasked hheld
  rw [List.append_nil] at hlog
  obtain ⟨snapshot, hcurrent, htold⟩ := hanswered.available (.inl hheld)
  obtain ⟨htopology, hgeneration⟩ := hlast hquiet snapshot hcurrent
  have hfetched : fetched s.log = [builtDiamond] := rfl
  rw [hlog, hfetched] at htopology hgeneration
  exact ⟨he, hparams, hquiet, hlog, snapshot, hgeneration, (Option.some.inj htopology).symm, htold⟩

end Overlay.Planner
