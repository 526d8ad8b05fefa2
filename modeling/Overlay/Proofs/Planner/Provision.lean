import Overlay.Planner.Provision
import Overlay.Proofs.Planner.Session
import Overlay.Proofs.Routing.Path

namespace Overlay.Planner

open Controller Fabric Routing Tenant

def creation (o : Order) : Call :=
  .createNetwork o.network.protocol o.network.controllerAddress o.network.controllerPort
    o.network.subnet

def attachment (tenant : TenantId) (h : Host) : Call :=
  .createHost tenant h.dpid h.portNumber h.mac

namespace Plan

def sendRoute (t : Topology) (tenant : TenantId) (switch : SwitchId) (src dst : Host) :
    Plan Unit := do
  let route ← route (some tenant) t src.port dst.port
  call (.createSwitchRoute tenant switch route)

def bigSwitch (t : Topology) (tenant : TenantId) (hosts : List Host) : Plan Build := do
  let switch ← call (.createSwitch tenant t.switches)
  (pairs hosts).forM fun (src, dst) => sendRoute t tenant switch src dst
  return ⟨[switch], (pairs hosts).length, 0⟩

def physical (t : Topology) (tenant : TenantId) : Plan Build := do
  let switches ← t.switches.mapM fun d => call (.createSwitch tenant [d])
  t.links.forM fun l => call (.createLink tenant l.pathText)
  return ⟨switches, 0, t.links.length⟩

def build (t : Topology) (tenant : TenantId) (hosts : List Host) : Mode → Plan Build
  | .bigSwitch => bigSwitch t tenant hosts
  | .physical => physical t tenant
  | .custom => .stop (.unsupported .custom)

def attach (tenant : TenantId) (hosts : List Host) : Plan Unit :=
  hosts.forM fun h => call (attachment tenant h)

def construct (o : Order) (mode : Mode) (t : Topology) (tenant : TenantId) : Plan Summary := do
  let built ← build t tenant o.hosts mode
  attach tenant o.hosts
  call (.startNetwork tenant)
  return ⟨tenant, mode.name, built.switches, o.hosts.length, built.routes, built.links⟩

def network (o : Order) : Plan Summary := do
  let mode ← .ofExcept (checkOrder o)
  let t ← fetch
  .ofExcept (checkHosts t o.hosts)
  let tenant ← call (creation o)
  construct o mode t tenant

end Plan

theorem forIn_count {m : Type → Type} [Monad m] [LawfulMonad m] {f : α → m PUnit}
    {turn : α → Nat → m (ForInStep Nat)} (h : ∀ a n, turn a n = do f a; return .yield (n + 1))
    (l : List α) (n : Nat) : forIn l n turn = do l.forM f; return n + l.length := by
  induction l generalizing n with
  | nil =>
    rw [List.forIn_nil]
    exact (pure_bind PUnit.unit fun _ => pure n).symm
  | cons a l ih =>
    rw [List.forIn_cons, h]
    change _ = f a >>= (fun _ => l.forM f) >>= fun _ => pure (n + (l.length + 1))
    simp only [bind_assoc, pure_bind, ih, Nat.add_assoc, Nat.add_comm 1]

theorem buildBigSwitch_eq (k : Controller σ) (tenant : TenantId) (snapshot : Snapshot)
    (hosts : List Host) : buildBigSwitch k tenant snapshot hosts = do
      let switch ← Workflow.call k .createSwitch (some tenant)
        (.createSwitch tenant snapshot.topology.switches)
      (pairs hosts).forM fun (src, dst) => sendRoute k tenant snapshot switch src dst
      return ⟨[switch], (pairs hosts).length, 0⟩ := by
  refine bind_congr fun switch => ?_
  dsimp only
  rw [forIn_count fun p n => rfl, bind_assoc, Nat.zero_add]
  rfl

theorem buildPhysical_eq (k : Controller σ) (tenant : TenantId) (snapshot : Snapshot) :
    buildPhysical k tenant snapshot = do
      let switches ← snapshot.topology.switches.mapM fun d =>
        Workflow.call k .createSwitch (some tenant) (.createSwitch tenant [d])
      snapshot.topology.links.forM fun l =>
        Workflow.call k .createLink (some tenant) (.createLink tenant l.pathText)
      return ⟨switches, 0, snapshot.topology.links.length⟩ := by
  refine bind_congr fun switches => ?_
  dsimp only
  rw [forIn_count fun l n => rfl, bind_assoc, Nat.zero_add]
  rfl

section

variable {snapshot : Snapshot} (k : Controller σ) (tenant : TenantId)

theorem follows_call {c : Call} {stage : Stage} {tenant? : Option TenantId}
    (hstage : stage = .ofCall c) (htenant : tenant? = c.tenant?) :
    Workflow.Follows (Session.Holds snapshot) (Workflow.call k stage tenant? c) (.call c) :=
  .call hstage htenant fun _ hs => hs.call k c

theorem buildBigSwitch_follows (hosts : List Host) :
    Workflow.Follows (Session.Holds snapshot) (buildBigSwitch k tenant snapshot hosts)
      (.bigSwitch snapshot.topology tenant hosts) := by
  rw [buildBigSwitch_eq]
  refine .bind (follows_call k rfl rfl) fun switch => .bind (.forM ?_) fun _ => .pure _
  rintro ⟨src, dst⟩ -
  exact .bind (.route _ _ _) fun route => follows_call k rfl rfl

theorem buildPhysical_follows :
    Workflow.Follows (Session.Holds snapshot) (buildPhysical k tenant snapshot)
      (.physical snapshot.topology tenant) := by
  rw [buildPhysical_eq]
  refine .bind (.mapM fun d _ => follows_call k rfl rfl) fun switches => ?_
  exact .bind (.forM fun l _ => follows_call k rfl rfl) fun _ => .pure _

theorem build_follows (hosts : List Host) (mode : Mode) :
    Workflow.Follows (Session.Holds snapshot) (build k tenant snapshot hosts mode)
      (.build snapshot.topology tenant hosts mode) := by
  cases mode with
  | bigSwitch => exact buildBigSwitch_follows k tenant hosts
  | physical => exact buildPhysical_follows k tenant
  | custom => exact .ofExcept (.error _)

theorem createNetwork_follows (o : Order) :
    Workflow.Follows Session.Orderly (createNetwork k o) (.network o) := by
  refine .bind (.ofExcept _) fun mode => .refresh k fun snapshot => ?_
  refine .bind (.ofExcept _) fun _ => .bind (follows_call k rfl rfl) fun tenant => ?_
  refine .bind (build_follows k tenant o.hosts mode) fun built => ?_
  refine .bind (.forM fun h _ => follows_call k rfl rfl) fun _ => ?_
  exact .bind (follows_call k rfl rfl) fun _ => .pure _

end

structure Admitted (o : Order) (mode : Mode) (d : Description) (t : Topology) : Prop where
  order : checkOrder o = .ok mode
  topology : Topology.build d = .ok t
  hosts : checkHosts t o.hosts = .ok ()

structure Acceptable (o : Order) (mode : Mode) : Prop where
  named : Mode.parse? o.network.type = some mode
  built : mode = .bigSwitch ∨ mode = .physical
  subnet : ∃ n, Subnet.parse? o.network.subnet = some n

theorem modeOf_eq_ok_iff {type : String} {mode : Mode} : modeOf type = .ok mode ↔
    Mode.parse? type = some mode ∧ (mode = .bigSwitch ∨ mode = .physical) := by
  unfold modeOf
  rcases Mode.parse? type with _ | _ | _ | _ <;> cases mode <;> simp

theorem checkOrder_eq_ok_iff {o : Order} {mode : Mode} :
    checkOrder o = .ok mode ↔ Acceptable o mode := by
  have hcheck : checkOrder o = .ok mode ↔
      modeOf o.network.type = .ok mode ∧ ∃ n, Subnet.parse? o.network.subnet = some n := by
    rw [checkOrder]
    cases modeOf o.network.type with
    | error e => simp [bind, Except.bind]
    | ok parsed =>
      cases Subnet.parse? o.network.subnet <;> simp [bind, Except.bind, pure, Except.pure]
  rw [hcheck, modeOf_eq_ok_iff]
  constructor
  · rintro ⟨⟨hnamed, hbuilt⟩, hsubnet⟩
    exact ⟨hnamed, hbuilt, hsubnet⟩
  · rintro ⟨hnamed, hbuilt, hsubnet⟩
    exact ⟨⟨hnamed, hbuilt⟩, hsubnet⟩

theorem checkHosts_eq_error {t : Topology} {hosts : List Host} {e : ProvisioningError}
    (h : checkHosts t hosts = .error e) :
    ∃ host ∈ hosts, host.dpid ∉ t.switches ∧
      e = .badRequest (.unknownSwitch host.mac host.dpid) := by
  unfold checkHosts at h
  split at h
  · next host hfind =>
    cases h
    refine ⟨host, List.mem_of_find?_eq_some hfind, fun hdeclared => ?_, rfl⟩
    have hmissing := List.find?_some hfind
    rw [Topology.contains_iff.mpr hdeclared] at hmissing
    cases hmissing
  · cases h

theorem checkHosts_eq_ok_iff {t : Topology} {hosts : List Host} :
    checkHosts t hosts = .ok () ↔ ∀ h ∈ hosts, h.dpid ∈ t.switches := by
  cases hcheck : checkHosts t hosts with
  | error e =>
    obtain ⟨host, hmem, hmissing, -⟩ := checkHosts_eq_error hcheck
    exact ⟨nofun, fun hplaced => absurd (hplaced host hmem) hmissing⟩
  | ok =>
    unfold checkHosts at hcheck
    split at hcheck
    · cases hcheck
    · next hfind => simpa using hfind

theorem Admitted.mode_eq {o : Order} {mode parsed : Mode} {d : Description} {t : Topology}
    (h : Admitted o mode d t) (hmode : Mode.parse? o.network.type = some parsed) :
    mode = parsed :=
  Option.some.inj ((checkOrder_eq_ok_iff.mp h.order).named.symm.trans hmode)

/-- The runs that are left to a network once it has been created, by the step that ends them. -/
inductive Construction (o : Order) (mode : Mode) (t : Topology) (tenant : TenantId) :
    List Exchange → Except ProvisioningError Summary → Prop
  | unbuilt : (Plan.build t tenant o.hosts mode).Runs built (.error e) →
    Construction o mode t tenant built (.error e)
  | unattached : (Plan.build t tenant o.hosts mode).Runs built (.ok b) →
    (Plan.attach tenant o.hosts).Runs attached (.error e) →
    Construction o mode t tenant (built ++ attached) (.error e)
  | unstarted (f : Failure) : (Plan.build t tenant o.hosts mode).Runs built (.ok b) →
    (Plan.attach tenant o.hosts).Runs attached (.ok ()) →
    Construction o mode t tenant (built ++ attached ++ [⟨.startNetwork tenant, .error f⟩])
      (.error (.controller .startNetwork (some tenant) f))
  | started : (Plan.build t tenant o.hosts mode).Runs built (.ok b) →
    (Plan.attach tenant o.hosts).Runs attached (.ok ()) →
    Construction o mode t tenant (built ++ attached ++ [⟨.startNetwork tenant, .ok ()⟩])
      (.ok ⟨tenant, mode.name, b.switches, o.hosts.length, b.routes, b.links⟩)

/-- The runs of the plan of an order, by the step that ends them. -/
inductive Course (o : Order) : List Exchange → Except ProvisioningError Summary → Prop
  | refused : checkOrder o = .error e → Course o [] (.error e)
  | unfetched (f : Failure) : checkOrder o = .ok mode →
    Course o [⟨.getPhysicalTopology, .error f⟩] (.error (.controller .fetchTopology none f))
  | malformed : checkOrder o = .ok mode → Topology.build d = .error cause →
    Course o [⟨.getPhysicalTopology, .ok d⟩] (.error (.topology cause))
  | misplaced : checkOrder o = .ok mode → Topology.build d = .ok t →
    checkHosts t o.hosts = .error e → Course o [⟨.getPhysicalTopology, .ok d⟩] (.error e)
  | uncreated (f : Failure) : Admitted o mode d t →
    Course o [⟨.getPhysicalTopology, .ok d⟩, ⟨creation o, .error f⟩]
      (.error (.controller .createNetwork none f))
  | created : Admitted o mode d t → (Plan.construct o mode t tenant).Runs trace reply →
    Course o (⟨.getPhysicalTopology, .ok d⟩ :: ⟨creation o, .ok tenant⟩ :: trace) reply

theorem Construction.of_runs {o : Order} {mode : Mode} {t : Topology} {tenant : TenantId}
    {trace : List Exchange} {reply : Except ProvisioningError Summary}
    (h : (Plan.construct o mode t tenant).Runs trace reply) :
    Construction o mode t tenant trace reply := by
  obtain ⟨e, hbuild, rfl⟩ | ⟨b, built, _, hbuild, hrest, rfl⟩ := Plan.runs_bind.mp h
  · exact .unbuilt hbuild
  obtain ⟨e, hattach, rfl⟩ | ⟨_, attached, _, hattach, hstart, rfl⟩ := Plan.runs_bind.mp hrest
  · exact .unattached hbuild hattach
  rw [← List.append_assoc]
  obtain ⟨f, rfl, rfl⟩ | ⟨_, _, rfl, hdone⟩ := Plan.runs_call_bind.mp hstart
  · exact .unstarted f hbuild hattach
  · cases hdone
    exact .started hbuild hattach

theorem Course.of_runs {o : Order} {trace : List Exchange}
    {reply : Except ProvisioningError Summary} (h : (Plan.network o).Runs trace reply) :
    Course o trace reply := by
  obtain ⟨e, he, rfl, rfl⟩ | ⟨mode, hmode, hfetch⟩ := Plan.runs_ofExcept_bind.mp h
  · exact .refused he
  obtain ⟨f, rfl, rfl⟩ | ⟨d, cause, hbuild, rfl, rfl⟩ | ⟨d, t, _, hbuild, rfl, hplaced⟩ :=
    Plan.runs_fetch_bind.mp hfetch
  · exact .unfetched f hmode
  · exact .malformed hmode hbuild
  obtain ⟨e, he, rfl, rfl⟩ | ⟨_, hhosts, hcreate⟩ := Plan.runs_ofExcept_bind.mp hplaced
  · exact .misplaced hmode hbuild he
  have hadmitted : Admitted o mode d t := ⟨hmode, hbuild, hhosts⟩
  obtain ⟨f, rfl, rfl⟩ | ⟨tenant, _, rfl, hrest⟩ := Plan.runs_call_bind.mp hcreate
  · exact .uncreated f hadmitted
  · exact .created hadmitted hrest

def row : Description where
  switches := [⟨3⟩, ⟨1⟩, ⟨2⟩]
  links := [⟨⟨⟨1⟩, 1⟩, ⟨⟨2⟩, 1⟩⟩, ⟨⟨⟨2⟩, 1⟩, ⟨⟨1⟩, 1⟩⟩, ⟨⟨⟨2⟩, 2⟩, ⟨⟨3⟩, 1⟩⟩, ⟨⟨⟨3⟩, 1⟩, ⟨⟨2⟩, 2⟩⟩]

def counted (d : Description) (n : Nat) : (c : Call) → c.Reply
  | .getPhysicalTopology => d
  | .createNetwork .. => ⟨7⟩
  | .createSwitch .. => ⟨UInt64.ofNat n⟩
  | .createLink .. => ()
  | .createHost .. => ()
  | .createSwitchRoute .. => ()
  | .startNetwork .. => ()

/-- A controller that reports one network, numbers switches by its calls, and fails at one call if
at all. During each call somebody else installs a network of a single switch. -/
def counting (d : Description) (failing? : Option Nat) : Controller Nat where
  answer c := fun n =>
    (if failing? = some n then .error (.status c.method 500) else .ok (counted d n c), n + 1)
  meanwhile _ _ := [.ofSwitches [⟨9⟩]]

def Session.used : Session Nat := ⟨0, (({} : SnapshotStore).install builtDiamond).2, []⟩

theorem eq_ok_of_toOption {r : Except ε α} {a : α} (h : r.toOption = some a) : r = .ok a := by
  cases r with
  | error e => cases h
  | ok b => exact congrArg _ (Option.some.inj h)

theorem Session.orderly_used : Session.used.Orderly := ⟨_, .install _ .start⟩

def twoHosts (type : String) (d e : Dpid) : Order where
  network := ⟨type, "tcp", "10.0.0.1", 6633, "10.1.0.0/16"⟩
  hosts := [⟨d, 5, "aa"⟩, ⟨e, 6, "bb"⟩]

end Overlay.Planner
