import Overlay.Proofs.Planner.Report

namespace Overlay.Planner

open Controller Fabric Json JsonRpc Routing Tenant

/-- The type in its place, whichever form the request and its network are written in. -/
def writtenType? (params : Json) : Option String :=
  ((params.first? "network").bind (·.first? "type")).bind Json.text?

structure Asks (params : Json) (o : Order) (mode : Mode) : Prop extends Acceptable o mode where
  decoded : Order.codec.decode params = .ok o

def WellTyped (params : Json) : Prop :=
  ∀ type, typeOf? params = some type → ∃ mode, modeOf type = .ok mode

inductive Reading (params : Json) : Except ErrorObject Order → Prop
  | mistyped : typeOf? params = some type → modeOf type = .error e →
    Reading params (.error e.toErrorObject)
  | unread : WellTyped params → Order.codec.decode params = .error fault →
    Reading params (.error (.invalidParams s!"Invalid params: {fault.message}"))
  | read : WellTyped params → Order.codec.decode params = .ok o → Reading params (.ok o)

section

variable {params : Json} {o : Order} {mode : Mode}

theorem reading (params : Json) : Reading params (orderOf params) := by
  have hread (htype : WellTyped params) : Reading params (readParams Order.codec params) := by
    rw [readParams]
    cases hdecode : Order.codec.decode params with
    | error fault => exact .unread htype hdecode
    | ok o => exact .read htype hdecode
  rw [orderOf]
  cases htype : typeOf? params with
  | none =>
    refine hread ?_
    rintro _ hsome
    cases htype.symm.trans hsome
  | some type =>
    cases hmode : modeOf type with
    | error e =>
      simp only [hmode]
      exact .mistyped htype hmode
    | ok mode =>
      simp only [hmode]
      refine hread ?_
      rintro _ hsome
      cases htype.symm.trans hsome
      exact ⟨mode, hmode⟩

theorem writtenType?_of_typeOf? {type : String} (h : typeOf? params = some type) :
    writtenType? params = some type := by
  obtain ⟨v, hv, htext⟩ := Option.bind_eq_some_iff.mp h
  obtain ⟨network, hnetwork, htype⟩ := Option.bind_eq_some_iff.mp hv
  rw [writtenType?, first?_of_member? hnetwork, Option.bind_some, first?_of_member? htype]
  exact htext

theorem writtenType?_of_decode (h : Order.codec.decode params = .ok o) :
    writtenType? params = some o.network.type := by
  obtain ⟨_, hosts, hhead, rfl⟩ := (Layout.reads_of_decode h).of_seq
  obtain ⟨v, network, hv, hnetwork, rfl⟩ := hhead.of_field
  obtain ⟨_, subnet, hfour, rfl⟩ := (Layout.reads_of_decode hnetwork).of_seq
  obtain ⟨_, port, hthree, rfl⟩ := hfour.of_seq
  obtain ⟨_, address, htwo, rfl⟩ := hthree.of_seq
  obtain ⟨_, protocol, hone, rfl⟩ := htwo.of_seq
  obtain ⟨w, type, hw, htype, rfl⟩ := hone.of_field
  obtain rfl := eq_str_of_decode htype
  rw [writtenType?, hv, Option.bind_some, hw]
  rfl

theorem Asks.unique {o' : Order} {mode' : Mode} (h : Asks params o mode)
    (h' : Asks params o' mode') : o = o' :=
  Except.ok.inj (h.decoded.symm.trans h'.decoded)

theorem asks_iff : Asks params o mode ↔ orderOf params = .ok o ∧ checkOrder o = .ok mode := by
  rw [checkOrder_eq_ok_iff]
  have hreading := reading params
  constructor
  · rintro ⟨hacceptable, hdecode⟩
    refine ⟨?_, hacceptable⟩
    cases hreply : orderOf params with
    | error err =>
      rw [hreply] at hreading
      cases hreading with
      | mistyped htype hmode =>
        -- The type that is looked at first is the one of the order.
        have hwritten := writtenType?_of_typeOf? htype
        obtain rfl := Option.some.inj (hwritten.symm.trans (writtenType?_of_decode hdecode))
        cases hmode.symm.trans (modeOf_eq_ok_iff.mpr ⟨hacceptable.named, hacceptable.built⟩)
      | unread _ hfault => cases hfault.symm.trans hdecode
    | ok o' =>
      rw [hreply] at hreading
      cases hreading with
      | read _ hdecode' => rw [Except.ok.inj (hdecode'.symm.trans hdecode)]
  · rintro ⟨horder, hacceptable⟩
    rw [horder] at hreading
    cases hreading with
    | read _ hdecode => exact ⟨hacceptable, hdecode⟩

theorem code_of_no_stage {e : ProvisioningError} (h : e.stage? = none) :
    e.toErrorObject.code = 1 ∨ e.toErrorObject.code = -32602 := by
  cases e with
  | unknownType => exact .inl rfl
  | badRequest | unsupported => exact .inr rfl
  | topology | route | controller => cases h

theorem orderOf_error_code {err : ErrorObject} (h : orderOf params = .error err) :
    err.code = 1 ∨ err.code = -32602 := by
  have hreading := reading params
  rw [h] at hreading
  cases hreading with
  | mistyped _ hmode => exact code_of_no_stage (modeOf_error hmode)
  | unread => exact .inr rfl

end

section

variable (k : Controller σ) (s : Session σ)

theorem createNetwork_of_refused {o : Order} {e : ProvisioningError}
    (h : checkOrder o = .error e) : (createNetwork k o).run.run s = (.error e, s) := by
  rw [createNetwork, run_bind, run_liftExcept, h]

variable {v : Json} {e : Envelope} (he : Envelope.ofJson v = .ok e)
  (hmethod : e.method = "createNetwork")
include he hmethod

theorem answer_of_refused {o : Order} {fault : ProvisioningError}
    (ho : orderOf e.params = .ok o) (hcheck : checkOrder o = .error fault) :
    ((methods k).answer v).run s = (.error e.id fault.toErrorObject, s) := by
  rw [answer_of_order k s he hmethod ho, createNetwork_of_refused k s hcheck]
  rfl

theorem answer_of_unacceptable (h : ¬∃ o mode, Asks e.params o mode) :
    ∃ err, (err.code = 1 ∨ err.code = -32602) ∧
      ((methods k).answer v).run s = (.error e.id err, s) := by
  cases ho : orderOf e.params with
  | error err => exact ⟨err, orderOf_error_code ho, answer_of_unread k s he hmethod ho⟩
  | ok o =>
    cases hcheck : checkOrder o with
    | error fault =>
      exact ⟨_, code_of_no_stage (checkOrder_error hcheck),
        answer_of_refused k s he hmethod ho hcheck⟩
    | ok mode => exact absurd ⟨o, mode, asks_iff.mpr ⟨ho, hcheck⟩⟩ h

end

def Misplaced (params : Json) (trace : List Exchange) (host : Host) : Prop :=
  ∃ o mode d t rest, Asks params o mode ∧ trace = ⟨.getPhysicalTopology, .ok d⟩ :: rest ∧
    Topology.build d = .ok t ∧ host ∈ o.hosts ∧ host.dpid ∉ d.switches

/-- How far a request gets, from the exchanges that it makes, its outcome, and the sessions before
and after it. -/
structure Gated (params : Json) (s s' : Session σ) (trace : List Exchange)
    (outcome : Except ErrorObject Json) : Prop where
  created : ∀ x ∈ trace, x.call.method = "createNetwork" → ∃ o mode d t rest,
    Asks params o mode ∧ x.call = creation o ∧ trace = ⟨.getPhysicalTopology, .ok d⟩ :: rest ∧
    Topology.build d = .ok t ∧ ∀ h ∈ o.hosts, h.dpid ∈ d.switches
  unasked : (¬∃ o mode, Asks params o mode) → trace = [] ∧ s' = s ∧
    ∃ e, outcome = .error e ∧ (e.code = 1 ∨ e.code = -32602)
  misplaced : (∃ host, Misplaced params trace host) →
    (∃ d, trace = [⟨.getPhysicalTopology, .ok d⟩]) ∧ ∃ host, Misplaced params trace host ∧
      outcome = .error (.invalidParams (ProvisioningError.badRequest
        (.unknownSwitch host.mac host.dpid)).message)
  refused : ∀ e, outcome = .error e → e.code ≠ -32603 →
    (¬∃ o mode, Asks params o mode) ∨ ∃ host, Misplaced params trace host

section

variable {params : Json} {o : Order} {mode : Mode} {d : Description} {t : Topology}
  {trace : List Exchange}

theorem Gated.of_placed {s s' : Session σ} {outcome : Except ErrorObject Json}
    (hasks : Asks params o mode)
    (hcreated : ∀ x ∈ trace, x.call.method = "createNetwork" → x.call = creation o ∧
      ∃ d t rest, trace = ⟨.getPhysicalTopology, .ok d⟩ :: rest ∧ Topology.build d = .ok t ∧
        ∀ h ∈ o.hosts, h.dpid ∈ d.switches)
    (hplaced : ∀ host, ¬Misplaced params trace host)
    (hcode : ∀ e, outcome = .error e → e.code = -32603) : Gated params s s' trace outcome where
  created x hx hmethod := by
    obtain ⟨hcall, d, t, rest, htrace, hbuild, hhosts⟩ := hcreated x hx hmethod
    exact ⟨o, mode, d, t, rest, hasks, hcall, htrace, hbuild, hhosts⟩
  unasked hnone := absurd ⟨o, mode, hasks⟩ hnone
  misplaced := by
    rintro ⟨host, hmisplaced⟩
    exact absurd hmisplaced (hplaced host)
  refused e he hne := absurd (hcode e he) hne

theorem Gated.of_admitted {s s' : Session σ} {outcome : Except ErrorObject Json}
    (hasks : Asks params o mode) {mode' : Mode} (h : Admitted o mode' d t)
    {r : Except Failure TenantId} (hrest : ∀ x ∈ trace, ∃ tenant, x.call.tenant? = some tenant)
    (hcode : ∀ e, outcome = .error e → e.code = -32603) :
    Gated params s s' (⟨.getPhysicalTopology, .ok d⟩ :: ⟨creation o, r⟩ :: trace) outcome := by
  have hplaced (host : Host) (hmem : host ∈ o.hosts) : host.dpid ∈ d.switches :=
    (Topology.mem_switches_of_build h.topology).mp (checkHosts_eq_ok_iff.mp h.hosts host hmem)
  refine .of_placed hasks ?_ ?_ hcode
  · intro x hx hmethod
    refine ⟨?_, d, t, _, rfl, h.topology, hplaced⟩
    cases hx with
    | head => simp [Call.method] at hmethod
    | tail _ hx =>
      cases hx with
      | head => rfl
      | tail _ hx =>
        -- Calls about a network that is there do not create one.
        obtain ⟨tenant, htenant⟩ := hrest x hx
        revert hmethod htenant
        cases x.call <;> simp [Call.method, Call.tenant?]
  · rintro host ⟨o', _, _, _, _, hasks', htrace, -, hmem, hmissing⟩
    cases htrace
    obtain rfl := hasks.unique hasks'
    exact hmissing (hplaced host hmem)

/-- The creation of the network is past the gates: what goes wrong later is no fault of the
request. -/
theorem code_of_construct {tenant : TenantId} {e : ProvisioningError}
    (hbuilt : mode = .bigSwitch ∨ mode = .physical)
    (h : (Plan.construct o mode t tenant).Runs trace (.error e)) :
    e.toErrorObject.code = -32603 := by
  obtain ⟨before, x, f, -, -, rfl⟩ | ⟨-, -, src, dst, cause, -, -, rfl⟩ :=
    h.error_cases (construct_stopsWith hbuilt)
  · rfl
  · rfl

theorem gated_of_course {s s' : Session σ} {reply : Except ProvisioningError Summary}
    (hasks : Asks params o mode) (h : Course o trace reply) : Gated params s s' trace
      ((reply.map Summary.codec.encode).mapError ProvisioningError.toErrorObject) := by
  have hcheck := (asks_iff.mp hasks).2
  cases h with
  | refused he => cases hcheck.symm.trans he
  | unfetched f _ =>
    refine .of_placed hasks (by simp [Call.method]) ?_ (by rintro _ ⟨⟩; rfl)
    rintro host ⟨_, _, _, _, _, -, htrace, -⟩
    cases htrace
  | malformed _ hbuild =>
    refine .of_placed hasks (by simp [Call.method]) ?_ (by rintro _ ⟨⟩; rfl)
    rintro host ⟨_, _, _, _, _, -, htrace, hbuild', -⟩
    cases htrace
    cases hbuild.symm.trans hbuild'
  | @misplaced _ d t e _ hbuild he =>
    obtain ⟨host, hmem, hmissing, rfl⟩ := checkHosts_eq_error he
    rw [Topology.mem_switches_of_build hbuild] at hmissing
    have hmisplaced : Misplaced params [⟨.getPhysicalTopology, .ok d⟩] host :=
      ⟨o, mode, d, t, [], hasks, rfl, hbuild, hmem, hmissing⟩
    constructor
    case created => simp [Call.method]
    case unasked => exact fun hnone => absurd ⟨o, mode, hasks⟩ hnone
    case misplaced => exact fun _ => ⟨⟨d, rfl⟩, host, hmisplaced, rfl⟩
    case refused => exact fun _ _ _ => .inr ⟨host, hmisplaced⟩
  | uncreated f hadmitted =>
    exact .of_admitted hasks hadmitted (List.forall_mem_nil _) (by rintro _ ⟨⟩; rfl)
  | created hadmitted hrun =>
    obtain ⟨switch, hissues⟩ := (Construction.of_runs hrun).issues
    refine .of_admitted hasks hadmitted
      (fun x hx => ⟨_, tenant?_of_mem_constructCalls (hissues.mem hx)⟩) ?_
    cases reply with
    | ok summary => nofun
    | error e =>
      rintro _ ⟨⟩
      exact code_of_construct (checkOrder_eq_ok_iff.mp hadmitted.order).built hrun

end

/-- Nothing is asked of the controller for a request that does not ask for a network that can be
built, and no network is created before its hosts have been found on the topology fetched for it. -/
theorem answer_gated (k : Controller σ) {s : Session σ} (hs : s.Orderly) {v : Json} {e : Envelope}
    (he : Envelope.ofJson v = .ok e) (hmethod : e.method = "createNetwork") :
    ∃ trace, (((methods k).answer v).run s).2.log = s.log ++ trace ∧
      Replies k s.controller trace (((methods k).answer v).run s).2.controller ∧
      Gated e.params s (((methods k).answer v).run s).2 trace
        (((methods k).answer v).run s).1.outcome := by
  by_cases hasks : ∃ o mode, Asks e.params o mode
  · obtain ⟨o, mode, hasks⟩ := hasks
    obtain ⟨trace, hlog, hreplies, hrun⟩ := createNetwork_converses k o hs
    rw [answer_of_order k s he hmethod (asks_iff.mp hasks).1]
    -- With the run in its place unification would carry it out.
    generalize (createNetwork k o).run.run s = r at hlog hreplies hrun ⊢
    exact ⟨trace, hlog, hreplies, gated_of_course hasks (.of_runs hrun)⟩
  · obtain ⟨err, hcode, hanswer⟩ := answer_of_unacceptable k s he hmethod hasks
    rw [hanswer]
    refine ⟨[], (List.append_nil _).symm, .nil, List.forall_mem_nil _, ?_, ?_, ?_⟩
    · exact fun _ => ⟨rfl, rfl, err, rfl, hcode⟩
    · rintro ⟨host, o, mode, _, _, _, hasks', -⟩
      exact absurd ⟨o, mode, hasks'⟩ hasks
    · exact fun _ _ _ => .inl hasks

theorem answer_gated_diamond :
    let k := counting diamond none
    let o := twoHosts "physical" ⟨1⟩ ⟨6⟩
    let answer := ((methods k).answer (requestFor o)).run .used
    Session.used.Orderly ∧ Envelope.ofJson (requestFor o) =
      .ok ⟨.int 1, "createNetwork", Order.codec.encode o⟩ ∧
    ∃ trace, Replies k 0 trace 1 ∧
      Gated (Order.codec.encode o) .used answer.2 trace answer.1.outcome ∧
      trace.map (·.call.method) = ["getPhysicalTopology"] := by
  intro k o answer
  obtain ⟨trace, hlog, hreplies, hgated⟩ :=
    answer_gated k Session.orderly_used (ofJson_requestFor o) rfl
  have hasked : answer.2.controller = 1 := by decide +kernel
  rw [hasked] at hreplies
  refine ⟨Session.orderly_used, ofJson_requestFor o, trace, hreplies, hgated, ?_⟩
  rw [← hlog.trans (List.nil_append trace)]
  decide +kernel

end Overlay.Planner
