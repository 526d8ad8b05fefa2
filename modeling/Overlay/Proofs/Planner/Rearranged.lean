import Overlay.Proofs.Fabric.Refusal
import Overlay.Proofs.Planner.Admission
import Overlay.Proofs.Planner.Conversation

namespace Overlay

open Controller Fabric

/-- In related states two controllers answer alike, whatever they are asked but for the topology. -/
structure Controller.Alike (k : Controller σ) (k' : Controller τ) (R : σ → τ → Prop) : Prop where
  reply : ∀ call a b, R a b → call ≠ .getPhysicalTopology →
    (k.answer call a).1 = (k'.answer call b).1
  next : ∀ call a b, R a b → R (k.answer call a).2 (k'.answer call b).2

namespace Planner

open JsonRpc Routing Tenant

section

variable {k : Controller σ} {k' : Controller τ} {R : σ → τ → Prop} (halike : k.Alike k' R)
  {a a' : σ} {b b' : τ} {trace trace' : List Exchange} (hR : R a b)
include halike hR

theorem reply_alike {c : Call} {r r' : Except Failure c.Reply} (hc : c ≠ .getPhysicalTopology)
    (h : Replies k a (⟨c, r⟩ :: trace) a') (h' : Replies k' b (⟨c, r'⟩ :: trace') b') : r = r' :=
  h.head.trans ((halike.reply c a b hR hc).trans h'.head.symm)

/-- A plan that does not ask for the topology has one run against controllers that answer alike. -/
theorem Plan.Runs.alike {p : Plan α} {reply reply' : Except ProvisioningError α}
    (h : p.Runs trace reply) (hreplies : Replies k a trace a')
    (hunasked : ∀ x ∈ trace, x.call ≠ .getPhysicalTopology)
    (h' : p.Runs trace' reply') (hreplies' : Replies k' b trace' b') :
    trace = trace' ∧ reply = reply' := by
  induction h generalizing a b trace' with
  | done =>
    cases h'
    exact ⟨rfl, rfl⟩
  | stop =>
    cases h'
    exact ⟨rfl, rfl⟩
  | @failed c _ f =>
    have hc := hunasked _ (.head _)
    cases h' with
    | failed f' =>
      cases reply_alike halike hR hc hreplies hreplies'
      exact ⟨rfl, rfl⟩
    | replied => cases reply_alike halike hR hc hreplies hreplies'
  | @replied _ _ c _ v _ ih =>
    have hc := hunasked _ (.head _)
    cases h' with
    | failed => cases reply_alike halike hR hc hreplies hreplies'
    | replied v' h' =>
      cases reply_alike halike hR hc hreplies hreplies'
      obtain ⟨rfl, rfl⟩ := ih (halike.next c a b hR) hreplies.tail
        (fun x hx => hunasked x (.tail _ hx)) h' hreplies'.tail
      exact ⟨rfl, rfl⟩

end

theorem Course.unasked {o : Order} {reply : Except ProvisioningError Summary} {x : Exchange}
    {trace : List Exchange} (h : Course o (x :: trace) reply) :
    ∀ y ∈ trace, y.call ≠ .getPhysicalTopology := by
  cases h with
  | unfetched => exact List.forall_mem_nil _
  | malformed => exact List.forall_mem_nil _
  | misplaced => exact List.forall_mem_nil _
  | uncreated => exact List.forall_mem_singleton.mpr nofun
  | created _ hrun =>
    obtain ⟨switch, hissues⟩ := (Construction.of_runs hrun).issues
    refine List.forall_mem_cons.mpr ⟨nofun, fun y hy hcall => ?_⟩
    have htenant := tenant?_of_mem_constructCalls (hissues.mem hy)
    rw [hcall] at htenant
    cases htenant

theorem Plan.Runs.fetched {k : Controller σ} {c c' : σ} {d : Description} {f : Topology → Plan α}
    {trace : List Exchange} {reply : Except ProvisioningError α}
    (h : (Plan.fetch >>= f).Runs trace reply) (hreplies : Replies k c trace c')
    (hd : (k.answer .getPhysicalTopology c).1 = .ok d) :
    (∃ cause, Topology.build d = .error cause ∧ trace = [⟨.getPhysicalTopology, .ok d⟩]) ∨
    ∃ t after, Topology.build d = .ok t ∧ trace = ⟨.getPhysicalTopology, .ok d⟩ :: after ∧
      (f t).Runs after reply := by
  obtain ⟨failure, rfl, -⟩ | ⟨d, cause, hbuild, rfl, -⟩ | ⟨d, t, after, hbuild, rfl, hrest⟩ :=
    Plan.runs_fetch_bind.mp h
  · cases hreplies.head.trans hd
  · cases hreplies.head.trans hd
    exact .inl ⟨cause, hbuild, rfl⟩
  · cases hreplies.head.trans hd
    exact .inr ⟨t, after, hbuild, rfl, hrest⟩

structure Session.Paired (k : Controller σ) (k' : Controller τ) (d d' : Description)
    (s : Session σ) (s' : Session τ) : Prop where
  alike : ∃ R, k.Alike k' R ∧ R s.controller s'.controller
  reported : (k.answer .getPhysicalTopology s.controller).1 = .ok d
  reported' : (k'.answer .getPhysicalTopology s'.controller).1 = .ok d'
  orderly : s.Orderly
  orderly' : s'.Orderly

section

variable {k : Controller σ} {k' : Controller τ} {d d' : Description} (hagrees : d.Agrees d')
  {s : Session σ} {s' : Session τ} (hpaired : Session.Paired k k' d d' s s')
include hagrees hpaired

theorem network_alike {o : Order} {c : σ} {c' : τ} {trace trace' : List Exchange}
    {reply reply' : Except ProvisioningError Summary}
    (h : (Plan.network o).Runs trace reply) (hreplies : Replies k s.controller trace c)
    (h' : (Plan.network o).Runs trace' reply') (hreplies' : Replies k' s'.controller trace' c') :
    trace.map (·.call) = trace'.map (·.call) ∧
      ∀ t, Topology.build d = .ok t → reply = reply' := by
  have hcourse := Course.of_runs h
  obtain ⟨R, halike, hR⟩ := hpaired.alike
  obtain ⟨e, he, rfl, rfl⟩ | ⟨mode, hmode, hfetch⟩ := Plan.runs_ofExcept_bind.mp h
  all_goals obtain ⟨e', he', rfl, rfl⟩ | ⟨mode', hmode', hfetch'⟩ := Plan.runs_ofExcept_bind.mp h'
  · cases he.symm.trans he'
    exact ⟨rfl, fun _ _ => rfl⟩
  · cases he.symm.trans hmode'
  · cases hmode.symm.trans he'
  cases hmode.symm.trans hmode'
  obtain ⟨cause, hbuild, rfl⟩ | ⟨t, after, hbuild, rfl, hrest⟩ :=
    hfetch.fetched hreplies hpaired.reported
  all_goals
    obtain ⟨cause', hbuild', rfl⟩ | ⟨t', after', hbuild', rfl, hrest'⟩ :=
      hfetch'.fetched hreplies' hpaired.reported'
  · refine ⟨rfl, fun t ht => ?_⟩
    cases hbuild.symm.trans ht
  · cases hbuild.symm.trans (Topology.build_of_agrees hagrees.symm hbuild')
  · cases hbuild'.symm.trans (Topology.build_of_agrees hagrees hbuild)
  cases hbuild'.symm.trans (Topology.build_of_agrees hagrees hbuild)
  obtain ⟨rfl, rfl⟩ := hrest.alike halike (halike.next _ _ _ hR) hreplies.tail hcourse.unasked
    hrest' hreplies'.tail
  exact ⟨rfl, fun _ _ => rfl⟩

theorem answer_alike {v : Json} {e : Envelope} (he : Envelope.ofJson v = .ok e)
    (hmethod : e.method = "createNetwork") :
    let answer := ((methods k).answer v).run s
    let answer' := ((methods k').answer v).run s'
    ∃ trace trace', answer.2.log = s.log ++ trace ∧ answer'.2.log = s'.log ++ trace' ∧
      trace.map (·.call) = trace'.map (·.call) ∧
      ∀ t, Topology.build d = .ok t → answer.1 = answer'.1 := by
  cases ho : orderOf e.params with
  | error err =>
    rw [answer_of_unread k s he hmethod ho, answer_of_unread k' s' he hmethod ho]
    exact ⟨[], [], (List.append_nil _).symm, (List.append_nil _).symm, rfl, fun _ _ => rfl⟩
  | ok o =>
    rw [answer_of_order k s he hmethod ho, answer_of_order k' s' he hmethod ho]
    dsimp only
    obtain ⟨trace, hlog, hreplies, hrun⟩ := createNetwork_converses k o hpaired.orderly
    obtain ⟨trace', hlog', hreplies', hrun'⟩ := createNetwork_converses k' o hpaired.orderly'
    obtain ⟨hcalls, hreply⟩ := network_alike hagrees hpaired hrun hreplies hrun' hreplies'
    refine ⟨trace, trace', hlog, hlog', hcalls, fun t ht => ?_⟩
    rw [hreply t ht]

end

/-- Descriptions of the same switches and links are both refused or make up the same topology, with
the same answers to all queries whatever was asked before. A network over either of them takes the
same calls and, if they are not refused, has the same answer. -/
theorem answer_rearranged (k : Controller σ) (k' : Controller τ) {d d' : Description}
    (hagrees : d.Agrees d') :
    ((∃ defect defect', Topology.build d = .error (.malformed defect) ∧
        Topology.build d' = .error (.malformed defect')) ∨
      ∃ t, Topology.build d = .ok t ∧ Topology.build d' = .ok t ∧
        ∀ earlier earlier' (q : Query),
          (q.run t (PathCache.after t earlier)).1 = (q.run t (PathCache.after t earlier')).1) ∧
    ∀ s s', Session.Paired k k' d d' s s' →
      ∀ v e, Envelope.ofJson v = .ok e → e.method = "createNetwork" →
        let answer := ((methods k).answer v).run s
        let answer' := ((methods k').answer v).run s'
        ∃ trace trace', answer.2.log = s.log ++ trace ∧ answer'.2.log = s'.log ++ trace' ∧
          trace.map (·.call) = trace'.map (·.call) ∧
          ∀ t, Topology.build d = .ok t → answer.1 = answer'.1 := by
  constructor
  · cases hbuild : Topology.build d with
    | ok t =>
      refine .inr ⟨t, rfl, Topology.build_of_agrees hagrees hbuild, fun earlier earlier' q => ?_⟩
      rw [PathCache.run_after, PathCache.run_after]
    | error cause =>
      obtain ⟨defect, rfl⟩ := Topology.build_error hbuild
      cases hbuild' : Topology.build d' with
      | ok t => cases hbuild.symm.trans (Topology.build_of_agrees hagrees.symm hbuild')
      | error cause' =>
        obtain ⟨defect', rfl⟩ := Topology.build_error hbuild'
        exact .inl ⟨defect, defect', rfl, rfl⟩
  · intro s s' hpaired v e he hmethod
    exact answer_alike hagrees hpaired he hmethod

def turned (d : Description) : Description := ⟨d.switches.reverse, d.links.reverse ++ d.links⟩

theorem agrees_turned (d : Description) : d.Agrees (turned d) :=
  ⟨fun _ => by simp [turned], fun _ => by simp [turned]⟩

theorem counting_alike (d d' : Description) (failing? : Option Nat) :
    (counting d failing?).Alike (counting d' failing?) Eq where
  reply c n _ hn hc := by
    cases hn
    cases c with
    | getPhysicalTopology => exact absurd rfl hc
    | _ => rfl
  next _ _ _ hn := congrArg (· + 1) hn

theorem answer_rearranged_diamond :
    let k := counting diamond none
    let k' := counting (turned diamond) none
    let fresh : Session Nat := ⟨0, {}, []⟩
    let v := requestFor (twoHosts "physical" ⟨1⟩ ⟨4⟩)
    diamond.Agrees (turned diamond) ∧ turned diamond ≠ diamond ∧
    Session.Paired k k' diamond (turned diamond) .used fresh ∧
    Envelope.ofJson v =
      .ok ⟨.int 1, "createNetwork", Order.codec.encode (twoHosts "physical" ⟨1⟩ ⟨4⟩)⟩ ∧
    (((methods k).answer v).run .used).1 = (((methods k').answer v).run fresh).1 := by
  intro k k' fresh v
  have hagrees := agrees_turned diamond
  have hpaired : Session.Paired k k' diamond (turned diamond) .used fresh := by
    constructor
    case alike => exact ⟨Eq, counting_alike _ _ none, rfl⟩
    case reported => rfl
    case reported' => rfl
    case orderly => exact Session.orderly_used
    case orderly' => exact Session.orderly_start 0 []
  have he := ofJson_requestFor (twoHosts "physical" ⟨1⟩ ⟨4⟩)
  obtain ⟨-, -, -, -, -, hanswer⟩ :=
    (answer_rearranged k k' hagrees).2 .used fresh hpaired v _ he rfl
  exact ⟨hagrees, by decide, hpaired, he, hanswer builtDiamond build_diamond⟩

end Planner
end Overlay
