import Overlay.Planner.Methods
import Overlay.Proofs.JsonRpc.Dispatch
import Overlay.Proofs.Planner.FailStop

namespace Overlay.Planner

open Controller Fabric Json JsonRpc Routing Tenant

def stepOf : Call → String
  | .getPhysicalTopology => "fetchTopology"
  | c => c.method

@[simp] theorem name_ofCall (c : Call) : (Stage.ofCall c).name = stepOf c := by
  cases c <;> rfl

/-- The stage that ends a run for an order with some hosts. -/
inductive EndsAt (hosts : List Host) : List Exchange → String → Prop
  | failed {l : List Exchange} {x : Exchange} {f : Failure} : x.reply = .error f →
    EndsAt hosts (l ++ [x]) (stepOf x.call)
  | malformed : Topology.build d = .error cause →
    EndsAt hosts [⟨.getPhysicalTopology, .ok d⟩] "fetchTopology"
  | unrouted : Topology.build d = .ok t → (∀ x ∈ trace, x.Succeeded) →
    (src, dst) ∈ pairs hosts → t.route src.port dst.port = .error cause →
    EndsAt hosts (⟨.getPhysicalTopology, .ok d⟩ :: trace) "computeRoute"

theorem EndsAt.failed_or {hosts : List Host} {trace : List Exchange} {step : String}
    (h : EndsAt hosts trace step) :
    (∃ l x f, trace = l ++ [x] ∧ x.reply = .error f ∧ step = stepOf x.call) ∨
    ∃ d rest, trace = ⟨.getPhysicalTopology, .ok d⟩ :: rest ∧ (∀ x ∈ trace, x.Succeeded) ∧
      step = match Topology.build d with
        | .error _ => "fetchTopology"
        | .ok _ => "computeRoute" := by
  cases h with
  | failed hx => exact .inl ⟨_, _, _, rfl, hx, rfl⟩
  | @malformed d cause hbuild =>
    refine .inr ⟨d, [], rfl, ?_, by rw [hbuild]⟩
    exact List.forall_mem_singleton.mpr ⟨d, rfl⟩
  | @unrouted d t rest src dst cause hbuild hall =>
    refine .inr ⟨d, rest, rfl, ?_, by rw [hbuild]⟩
    exact List.forall_mem_cons.mpr ⟨⟨d, rfl⟩, hall⟩

theorem EndsAt.unique {hosts : List Host} {trace : List Exchange} {step other : String}
    (h : EndsAt hosts trace step) (h' : EndsAt hosts trace other) : step = other := by
  obtain ⟨l, x, f, rfl, hx, rfl⟩ | ⟨d, rest, rfl, hall, rfl⟩ := h.failed_or
  · obtain ⟨l', y, g, heq, -, rfl⟩ | ⟨d, rest, -, hall, -⟩ := h'.failed_or
    · obtain ⟨-, hlast⟩ := List.append_inj' heq rfl
      rw [List.head_eq_of_cons_eq hlast]
    · obtain ⟨a, ha⟩ := hall x List.mem_concat_self
      cases hx.symm.trans ha
  · obtain ⟨l', y, g, heq, hy, -⟩ | ⟨d', rest', heq, -, rfl⟩ := h'.failed_or
    · obtain ⟨a, ha⟩ := hall y (heq ▸ List.mem_concat_self)
      cases hy.symm.trans ha
    · cases heq
      rfl

def Created (trace : List Exchange) (tenant : TenantId) : Prop :=
  ∃ protocol host port subnet, ⟨.createNetwork protocol host port subnet, .ok tenant⟩ ∈ trace

/-- What the outcome of a request tells of the exchanges with the controller. -/
structure Reported (params : Json) (trace : List Exchange) (outcome : Except ErrorObject Json) :
    Prop where
  created : ∀ tenant, Created trace tenant →
    (∃ v, outcome = .ok v ∧ v.member? "tenantId" = some (.ofWord tenant.val)) ∨
    ∃ e data, outcome = .error e ∧ e.code = -32603 ∧ e.data = some data ∧
      data.member? "tenantId" = some (.ofWord tenant.val)
  uncreated : (¬∃ tenant, Created trace tenant) → ∃ e, outcome = .error e ∧
    ∀ data, e.data = some data → data.member? "tenantId" = none
  stage : ∀ e, outcome = .error e → e.code = -32603 → ∃ o data step, orderOf params = .ok o ∧
    e.data = some data ∧ data.member? "step" = some (.str step) ∧ EndsAt o.hosts trace step

section

variable {e : ProvisioningError}

theorem toErrorObject_of_stage {stage : Stage} (h : e.stage? = some stage) :
    e.toErrorObject.code = -32603 ∧ ∃ data, e.toErrorObject.data = some data ∧
      data.member? "step" = some (.str stage.name) ∧
      data.member? "tenantId" = e.tenant?.map (.ofWord ·.val) := by
  have hreport : e.report.member? "step" = some (.str stage.name) ∧
      e.report.member? "tenantId" = e.tenant?.map (.ofWord ·.val) := by
    rw [ProvisioningError.report, h, member?_obj, member?_obj]
    cases e.tenant? with
    | none => exact ⟨rfl, rfl⟩
    | some tenant => exact ⟨rfl, rfl⟩
  cases e with
  | badRequest | unknownType | unsupported => cases h
  | topology | route | controller => exact ⟨rfl, _, rfl, hreport⟩

theorem toErrorObject_of_no_stage (h : e.stage? = none) : e.toErrorObject.code ≠ -32603 ∧
    ∀ data, e.toErrorObject.data = some data → data.member? "tenantId" = none := by
  cases e with
  | badRequest fault => exact ⟨(by decide : (-32602 : Int64) ≠ -32603), nofun⟩
  | unknownType type =>
    refine ⟨(by decide : (1 : Int64) ≠ -32603), ?_⟩
    rintro _ ⟨⟩
    rw [member?_obj]
    rfl
  | unsupported mode =>
    refine ⟨(by decide : (-32602 : Int64) ≠ -32603), ?_⟩
    rintro _ ⟨⟩
    rw [member?_obj]
    rfl
  | topology | route | controller => cases h

theorem tenant?_eq_none (h : e.stage? = none) : e.tenant? = none := by
  cases e with
  | badRequest | unknownType | unsupported => rfl
  | topology | route | controller => cases h

theorem modeOf_error {type : String} (h : modeOf type = .error e) : e.stage? = none := by
  unfold modeOf at h
  split at h <;> cases h <;> rfl

theorem checkOrder_error {o : Order} (h : checkOrder o = .error e) : e.stage? = none := by
  rw [checkOrder] at h
  cases hmode : modeOf o.network.type with
  | error e' =>
    rw [hmode] at h
    cases h
    exact modeOf_error hmode
  | ok mode =>
    simp only [hmode, bind, Except.bind] at h
    split at h
    · cases h
    · cases h
      rfl

theorem readParams_error {c : Codec α} {params : Json} {err : ErrorObject}
    (h : readParams c params = .error err) : err.code ≠ -32603 ∧ err.data = none := by
  rw [readParams] at h
  cases hdecode : c.decode params with
  | error fault =>
    rw [hdecode] at h
    cases h
    exact ⟨(by decide : (-32602 : Int64) ≠ -32603), rfl⟩
  | ok a =>
    rw [hdecode] at h
    cases h

theorem orderOf_error {params : Json} {err : ErrorObject} (h : orderOf params = .error err) :
    err.code ≠ -32603 ∧ ∀ data, err.data = some data → data.member? "tenantId" = none := by
  have hread (h : readParams Order.codec params = .error err) :
      err.code ≠ -32603 ∧ ∀ data, err.data = some data → data.member? "tenantId" = none := by
    obtain ⟨hcode, hdata⟩ := readParams_error h
    rw [hdata]
    exact ⟨hcode, nofun⟩
  rw [orderOf] at h
  cases htype : typeOf? params with
  | none =>
    rw [htype] at h
    exact hread h
  | some type =>
    rw [htype] at h
    cases hmode : modeOf type with
    | error e =>
      simp only [hmode] at h
      cases h
      exact toErrorObject_of_no_stage (modeOf_error hmode)
    | ok mode =>
      simp only [hmode] at h
      exact hread h

end

section

variable {o : Order} {mode : Mode} {t : Topology} {tenant : TenantId} {trace : List Exchange}

theorem construct_stopsWith (hbuilt : mode = .bigSwitch ∨ mode = .physical) :
    (Plan.construct o mode t tenant).StopsWith fun e =>
      mode = .bigSwitch ∧ ∃ src dst cause, (src, dst) ∈ pairs o.hosts ∧
        t.route src.port dst.port = .error cause ∧ e = .route (some tenant) cause := by
  refine .bind ?_ fun built => .bind (.forM fun h _ => Plan.stopsWith_call _) fun _ =>
    .bind (Plan.stopsWith_call _) fun _ => trivial
  obtain rfl | rfl := hbuilt
  · refine .bind (Plan.stopsWith_call _) fun switch => .bind (.forM ?_) fun _ => trivial
    rintro ⟨src, dst⟩ hmem
    refine .bind (Plan.stopsWith_ofExcept ?_) fun route => Plan.stopsWith_call _
    intro e he
    cases hroute : t.route src.port dst.port with
    | error cause =>
      rw [hroute] at he
      cases he
      exact ⟨rfl, src, dst, cause, hmem, hroute, rfl⟩
    | ok route =>
      rw [hroute] at he
      cases he
  · exact .bind (.mapM fun d _ => Plan.stopsWith_call _) fun switches =>
      .bind (.forM fun l _ => Plan.stopsWith_call _) fun _ => trivial

theorem checkHosts_error {e : ProvisioningError} {hosts : List Host}
    (h : checkHosts t hosts = .error e) : e.stage? = none := by
  obtain ⟨_, -, -, rfl⟩ := checkHosts_eq_error h
  rfl

namespace Reported

variable {params : Json}

theorem of_ok {summary : Summary}
    (h : ∀ tenant, Created trace tenant ↔ some summary.tenant = some tenant) :
    Reported params trace (.ok (Summary.codec.encode summary)) where
  created tenant hcreated := by
    obtain rfl := Option.some.inj ((h tenant).mp hcreated)
    refine .inl ⟨_, rfl, ?_⟩
    rw [Summary.codec, Layout.codec, member?_obj]
    rfl
  uncreated hnone := absurd ⟨summary.tenant, (h _).mpr rfl⟩ hnone
  stage := nofun

theorem of_error {e : ProvisioningError} (ho : orderOf params = .ok o)
    (htenant : ∀ tenant, Created trace tenant ↔ e.tenant? = some tenant)
    (hstage : ∀ stage, e.stage? = some stage → EndsAt o.hosts trace stage.name) :
    Reported params trace (.error e.toErrorObject) := by
  cases he : e.stage? with
  | none =>
    obtain ⟨hcode, hdata⟩ := toErrorObject_of_no_stage he
    constructor
    case created =>
      intro tenant hcreated
      have := (htenant tenant).mp hcreated
      rw [tenant?_eq_none he] at this
      cases this
    case uncreated => exact fun _ => ⟨_, rfl, hdata⟩
    case stage =>
      rintro _ ⟨⟩ heq
      exact absurd heq hcode
  | some stage =>
    obtain ⟨hcode, data, hdata, hstep, hid⟩ := toErrorObject_of_stage he
    constructor
    case created =>
      intro tenant hcreated
      rw [(htenant tenant).mp hcreated] at hid
      exact .inr ⟨_, data, rfl, hcode, hdata, hid⟩
    case uncreated =>
      intro hnone
      refine ⟨_, rfl, ?_⟩
      intro data' hdata'
      obtain rfl := Option.some.inj (hdata.symm.trans hdata')
      cases htenant' : e.tenant? with
      | none => rw [hid, htenant']; rfl
      | some tenant => exact absurd ⟨tenant, (htenant tenant).mpr htenant'⟩ hnone
    case stage =>
      rintro _ ⟨⟩ -
      exact ⟨o, data, stage.name, ho, hdata, hstep, hstage stage he⟩

end Reported

theorem created_iff {d : Description} {tenant' : TenantId}
    (h : ∀ x ∈ trace, x.call.tenant? = some tenant) :
    Created (⟨.getPhysicalTopology, .ok d⟩ :: ⟨creation o, .ok tenant⟩ :: trace) tenant' ↔
      some tenant = some tenant' := by
  constructor
  · rintro ⟨protocol, host, port, subnet, hmem⟩
    cases hmem with
    | tail _ hmem =>
      cases hmem with
      | head => rfl
      | tail _ hmem => cases h _ hmem
  · rintro ⟨⟩
    exact ⟨_, _, _, _, .tail _ (.head _)⟩

theorem reported_of_course {params : Json} {reply : Except ProvisioningError Summary}
    (ho : orderOf params = .ok o) (h : Course o trace reply) : Reported params trace
      ((reply.map Summary.codec.encode).mapError ProvisioningError.toErrorObject) := by
  cases h with
  | refused he =>
    have hstage := checkOrder_error he
    refine .of_error ho (fun tenant => ?_) (by rw [hstage]; nofun)
    rw [tenant?_eq_none hstage]
    simp [Created]
  | unfetched f hmode =>
    refine .of_error ho (fun tenant => by simp [Created, ProvisioningError.tenant?]) ?_
    rintro _ ⟨⟩
    exact .failed (l := []) rfl
  | malformed hmode hbuild =>
    refine .of_error ho (fun tenant => by simp [Created, ProvisioningError.tenant?]) ?_
    rintro _ ⟨⟩
    exact .malformed hbuild
  | misplaced hmode hbuild he =>
    have hstage := checkHosts_error he
    refine .of_error ho (fun tenant => ?_) (by rw [hstage]; nofun)
    rw [tenant?_eq_none hstage]
    simp [Created]
  | uncreated f hadmitted =>
    refine .of_error ho (fun tenant => by simp [Created, creation, ProvisioningError.tenant?]) ?_
    rintro _ ⟨⟩
    exact .failed (l := [_]) rfl
  | created hadmitted hrun =>
    obtain ⟨switch, hissues⟩ := (Construction.of_runs hrun).issues
    have htenant := fun x hx => tenant?_of_mem_constructCalls (hissues.mem (x := x) hx)
    cases reply with
    | ok summary =>
      cases Construction.of_runs hrun with
      | started => exact .of_ok fun _ => created_iff htenant
    | error e =>
      have hbuilt := (checkOrder_eq_ok_iff.mp hadmitted.order).built
      obtain ⟨before, x, f, rfl, hx, rfl⟩ | ⟨hall, -, src, dst, cause, hmem, hroute, rfl⟩ :=
        hrun.error_cases (construct_stopsWith hbuilt)
      · refine .of_error ho (fun _ => (created_iff htenant).trans ?_) ?_
        · rw [← htenant x List.mem_concat_self]
          rfl
        · rintro _ ⟨⟩
          rw [name_ofCall, ← List.cons_append, ← List.cons_append]
          exact .failed hx
      · refine .of_error ho (fun _ => created_iff htenant) ?_
        rintro _ ⟨⟩
        refine .unrouted hadmitted.topology ?_ hmem hroute
        exact List.forall_mem_cons.mpr ⟨⟨_, rfl⟩, hall⟩

end

def completionOf : Except ErrorObject Json → Completion
  | .ok v => .result v
  | .error e => .failure e

theorem outcome_completionOf (method : String) (outcome : Except ErrorObject Json) :
    (completionOf outcome).outcome method = outcome := by
  cases outcome <;> rfl

theorem run_completion (report : ProvisioningError → ErrorObject) (w : Workflow σ α) (c : Codec α)
    (s : Session σ) : StateT.run (do return completion c (← run report w)) s =
      (completionOf (((w.run.run s).1.map c.encode).mapError report), (w.run.run s).2) := by
  change (completion c ((w.run.run s).1.mapError report), (w.run.run s).2) = _
  cases (w.run.run s).1 <;> rfl

section

variable {params : Json}

theorem reported_of_unread {err : ErrorObject} (ho : orderOf params = .error err) :
    Reported params [] (.error err) := by
  obtain ⟨hcode, hdata⟩ := orderOf_error ho
  refine ⟨?_, ?_, ?_⟩
  · simp [Created]
  · exact fun _ => ⟨err, rfl, hdata⟩
  · rintro _ ⟨⟩ heq
    exact absurd heq hcode

variable (k : Controller σ)

theorem find?_createNetwork :
    (methods k).find? "createNetwork" = some (createNetworkMethod k) := by
  rw [methods, Methods.find?_register_of_ne (by decide), Methods.find?_register_of_ne (by decide),
    Methods.find?_register_self]

variable (s : Session σ) {v : Json} {e : Envelope} (he : Envelope.ofJson v = .ok e)
  (hmethod : e.method = "createNetwork")
include he hmethod

theorem answer_createNetwork : ((methods k).answer v).run s =
    (⟨version, e.id, ((createNetworkMethod k e.id e.params).run s).1.outcome e.method⟩,
      ((createNetworkMethod k e.id e.params).run s).2) :=
  Methods.answer_of_found he (hmethod ▸ find?_createNetwork k) s

theorem answer_of_unread {err : ErrorObject} (ho : orderOf e.params = .error err) :
    ((methods k).answer v).run s = (.error e.id err, s) := by
  rw [answer_createNetwork k s he hmethod, createNetworkMethod, ho]
  rfl

theorem answer_of_order {o : Order} (ho : orderOf e.params = .ok o) :
    ((methods k).answer v).run s =
      (⟨version, e.id, (((createNetwork k o).run.run s).1.map Summary.codec.encode).mapError
        ProvisioningError.toErrorObject⟩, ((createNetwork k o).run.run s).2) := by
  rw [answer_createNetwork k s he hmethod, createNetworkMethod, ho]
  dsimp only
  rw [run_completion, outcome_completionOf]

end

/-- The answer to a request for a network tells of the network that has been created for it, if one
has, and of the stage that the workflow ended at, if it did not end well. -/
theorem answer_reported (k : Controller σ) {s : Session σ} (hs : s.Orderly) {v : Json}
    {e : Envelope} (he : Envelope.ofJson v = .ok e) (hmethod : e.method = "createNetwork") :
    ∃ trace, (((methods k).answer v).run s).2.log = s.log ++ trace ∧
      Replies k s.controller trace (((methods k).answer v).run s).2.controller ∧
      Reported e.params trace (((methods k).answer v).run s).1.outcome := by
  cases ho : orderOf e.params with
  | error err =>
    rw [answer_of_unread k s he hmethod ho]
    exact ⟨[], (List.append_nil _).symm, .nil, reported_of_unread ho⟩
  | ok o =>
    obtain ⟨trace, hlog, hreplies, hrun⟩ := createNetwork_converses k o hs
    rw [answer_of_order k s he hmethod ho]
    -- With the run in its place unification would carry it out.
    generalize (createNetwork k o).run.run s = r at hlog hreplies hrun ⊢
    exact ⟨trace, hlog, hreplies, reported_of_course ho (.of_runs hrun)⟩

theorem ofJson_request (method : String) (ms : List (String × Json)) :
    Envelope.ofJson (Request.codec.encode { method, params := .obj ms, id := .int 1 }) =
      .ok ⟨.int 1, method, .obj ms⟩ := by
  have hmembers : Request.codec.encode { method, params := .obj ms, id := .int 1 } =
      .obj [("jsonrpc", .str version), ("method", .str method), ("params", .obj ms),
        ("id", .int 1)] := rfl
  rw [hmembers, Envelope.ofJson]
  simp only [Envelope.checkVersion, Envelope.methodOf, Envelope.paramsOf, Envelope.idOf,
    member?_obj]
  rfl

def requestFor (o : Order) : Json :=
  Request.codec.encode { method := "createNetwork", params := Order.codec.encode o, id := .int 1 }

theorem ofJson_requestFor (o : Order) : Envelope.ofJson (requestFor o) =
    .ok ⟨.int 1, "createNetwork", Order.codec.encode o⟩ :=
  ofJson_request "createNetwork" _

theorem answer_reported_diamond :
    let k := counting diamond none
    let o := twoHosts "bigswitch" ⟨1⟩ ⟨4⟩
    let answer := ((methods k).answer (requestFor o)).run .used
    Session.used.Orderly ∧ Envelope.ofJson (requestFor o) =
      .ok ⟨.int 1, "createNetwork", Order.codec.encode o⟩ ∧
    ∃ trace, Replies k 0 trace 4 ∧ Reported (Order.codec.encode o) trace answer.1.outcome ∧
      trace.map (·.call.method) =
        ["getPhysicalTopology", "createNetwork", "createSwitch", "createSwitchRoute"] := by
  intro k o answer
  obtain ⟨trace, hlog, hreplies, hreported⟩ :=
    answer_reported k Session.orderly_used (ofJson_requestFor o) rfl
  have hasked : answer.2.controller = 4 := by decide +kernel
  rw [hasked] at hreplies
  refine ⟨Session.orderly_used, ofJson_requestFor o, trace, hreplies, hreported, ?_⟩
  rw [← hlog.trans (List.nil_append trace)]
  decide +kernel

end Overlay.Planner
