import Overlay.Proofs.Planner.Service

namespace Overlay

open Controller Fabric

/-- Nobody else installs topologies while calls are under way. -/
def Controller.Quiet (k : Controller σ) : Prop := ∀ c state, k.meanwhile c state = []

namespace Planner

open Routing Tenant

def fetched? : Exchange → Option Topology
  | ⟨.getPhysicalTopology, .ok d⟩ => (Topology.build d).toOption
  | _ => none

def fetched (log : List Exchange) : List Topology := log.filterMap fetched?

section

variable {log more : List Exchange} {x : Exchange}

@[simp] theorem fetched_append : fetched (log ++ more) = fetched log ++ fetched more :=
  List.filterMap_append

theorem fetched_singleton : fetched [x] = (fetched? x).toList := by
  rw [fetched, List.filterMap_cons]
  cases fetched? x <;> rfl

theorem fetched?_of_ne (h : x.call ≠ .getPhysicalTopology) : fetched? x = none := by
  unfold fetched?
  split
  next => exact absurd rfl h
  next => rfl

theorem fetched_of_ne (h : ∀ x ∈ log, x.call ≠ .getPhysicalTopology) : fetched log = [] := by
  rw [fetched, List.filterMap_eq_nil_iff]
  intro x hx
  exact fetched?_of_ne (h x hx)

end

section

variable {k : Controller σ} {s s' : Session σ} {snapshot : Snapshot}

theorem Refreshed.exchange {reply : Except ProvisioningError Snapshot}
    (h : Refreshed k s reply s') : ∃ r, s'.log = s.log ++ [⟨.getPhysicalTopology, r⟩] ∧
      fetched? ⟨.getPhysicalTopology, r⟩ = reply.toOption.map Snapshot.topology := by
  cases h with
  | unfetched hlog => exact ⟨_, hlog, rfl⟩
  | malformed hlog hbuild =>
    refine ⟨_, hlog, ?_⟩
    rw [fetched?, hbuild]
    rfl
  | installed hlog hbuild =>
    refine ⟨_, hlog, ?_⟩
    rw [fetched?, hbuild]
    rfl

theorem Refreshed.current (h : Refreshed k s (.ok snapshot) s') :
    s'.store.current? = some snapshot := by
  cases h with
  | installed => rfl

variable (hquiet : k.Quiet)
include hquiet

theorem store_call (c : Call) (s : Session σ) : (Session.call k c s).2.store = s.store := by
  change (k.meanwhile c s.controller).foldl _ s.store = s.store
  rw [hquiet]
  rfl

theorem Refreshed.store_of_error {e : ProvisioningError} (h : Refreshed k s (.error e) s') :
    s'.store = s.store := by
  cases h with
  | unfetched => exact store_call hquiet _ s
  | malformed => exact store_call hquiet _ s

theorem Refreshed.installed_of_ok (h : Refreshed k s (.ok snapshot) s') :
    s'.store.installed = s.store.installed + 1 ∧ snapshot.generation = s.store.installed + 1 := by
  have hstore : (s.asked k).store = s.store := store_call hquiet _ s
  cases h with
  | installed =>
    constructor
    · exact congrArg (·.installed + 1) hstore
    · exact congrArg (·.installed + 1) hstore

end

def Session.current? (s : Session σ) : Option (UInt64 × Topology) :=
  s.store.current?.map fun snapshot => (snapshot.generation, snapshot.topology)

structure Session.Stays (s : Session σ) (trace : List Exchange) (s' : Session σ) : Prop where
  log : s'.log = s.log ++ trace
  unasked : ∀ x ∈ trace, x.call ≠ .getPhysicalTopology
  installed : s'.store.installed = s.store.installed
  current : s'.current? = s.current?

theorem Session.Stays.refl (s : Session σ) : s.Stays [] s :=
  ⟨(List.append_nil _).symm, List.forall_mem_nil _, rfl, rfl⟩

theorem Session.stays_routed (s : Session σ) (r : RouteRequest) (snapshot : Snapshot) :
    s.Stays [] (s.routed r snapshot) :=
  ⟨(List.append_nil _).symm, List.forall_mem_nil _, rfl, rfl⟩

/-- What a message does to a session, by the reply to the fetch of a topology for it. -/
inductive Turn (s : Session σ) : List Exchange → Session σ → Prop
  | unasked {trace : List Exchange} {s' : Session σ} : s.Stays trace s' → Turn s trace s'
  | missed {r : Except Failure Description} {s' : Session σ} :
    fetched? ⟨.getPhysicalTopology, r⟩ = none → s'.log = s.log ++ [⟨.getPhysicalTopology, r⟩] →
    s'.store = s.store → Turn s [⟨.getPhysicalTopology, r⟩] s'
  | brought {r : Except Failure Description} {t : Topology} {trace : List Exchange}
    {s₁ s' : Session σ} : fetched? ⟨.getPhysicalTopology, r⟩ = some t →
    s₁.log = s.log ++ [⟨.getPhysicalTopology, r⟩] →
    s₁.store.installed = s.store.installed + 1 →
    s₁.current? = some (s.store.installed + 1, t) → s₁.Stays trace s' →
    Turn s (⟨.getPhysicalTopology, r⟩ :: trace) s'

section

variable {k : Controller σ} {s s' : Session σ}

theorem stays_kept (hquiet : k.Quiet) (s : Session σ) :
    Kept k fun s' => ∃ trace, s.Stays trace s' where
  call c hc s' := by
    rintro ⟨trace, hlog, hunasked, hinstalled, hcurrent⟩
    have hstore := store_call hquiet c s'
    refine ⟨trace ++ [⟨c, (Session.call k c s').1⟩], ?_, ?_, ?_, ?_⟩
    · rw [Session.call_log, hlog, List.append_assoc]
    · simp only [List.forall_mem_append, List.forall_mem_singleton]
      exact ⟨hunasked, hc⟩
    · rw [hstore, hinstalled]
    · rw [Session.current?, hstore]
      exact hcurrent
  route snapshot entry exit s' := by
    rintro ⟨trace, hlog, hunasked, hinstalled, hcurrent⟩
    exact ⟨trace, hlog, hunasked, hinstalled, hcurrent⟩

theorem Refreshed.turn_of_error (hquiet : k.Quiet) {e : ProvisioningError}
    (h : Refreshed k s (.error e) s') : ∃ trace, Turn s trace s' := by
  obtain ⟨r, hlog, hnone⟩ := h.exchange
  exact ⟨_, .missed hnone hlog (h.store_of_error hquiet)⟩

theorem Refreshed.turn_of_ok (hquiet : k.Quiet) {snapshot : Snapshot} {s₁ : Session σ}
    (h : Refreshed k s (.ok snapshot) s₁) {trace : List Exchange} (hrest : s₁.Stays trace s') :
    ∃ trace, Turn s trace s' := by
  obtain ⟨r, hlog, hsome⟩ := h.exchange
  obtain ⟨hinstalled, hgeneration⟩ := h.installed_of_ok hquiet
  refine ⟨_, .brought hsome hlog hinstalled ?_ hrest⟩
  rw [Session.current?, h.current, ← hgeneration]
  rfl

theorem createNetwork_turn (hquiet : k.Quiet) (o : Order) (s : Session σ) :
    ∃ trace, Turn s trace ((createNetwork k o).run.run s).2 := by
  have hrefreshed := refreshed k s
  rw [createNetwork_eq, run_bind, run_liftExcept]
  cases checkOrder o with
  | error e => exact ⟨[], .unasked (.refl s)⟩
  | ok mode =>
    dsimp only
    rw [run_bind]
    rcases hrun : (refreshTopology k).run.run s with ⟨e | snapshot, s₁⟩
    · rw [hrun] at hrefreshed
      exact hrefreshed.turn_of_error hquiet
    · rw [hrun] at hrefreshed
      obtain ⟨trace, hrest⟩ :=
        carryOut_preserves (stays_kept hquiet s₁) o mode snapshot s₁ ⟨[], .refl s₁⟩
      exact hrefreshed.turn_of_ok hquiet hrest

theorem Planned.turn (hquiet : k.Quiet) {r : RouteRequest}
    {reply : Except ProvisioningError RoutePlan} (h : Planned k s r reply s') :
    ∃ trace, Turn s trace s' := by
  cases h with
  | held => exact ⟨[], .unasked (s.stays_routed r _)⟩
  | fetched _ hrefreshed => exact hrefreshed.turn_of_ok hquiet (Session.stays_routed _ r _)
  | failed _ hrefreshed => exact hrefreshed.turn_of_error hquiet

theorem Refreshed.turn (hquiet : k.Quiet) {reply : Except ProvisioningError Snapshot}
    (h : Refreshed k s reply s') : ∃ trace, Turn s trace s' := by
  cases reply with
  | error e => exact h.turn_of_error hquiet
  | ok snapshot => exact h.turn_of_ok hquiet (.refl s')

theorem Served.turn (hquiet : k.Quiet) (hs : s.Orderly) (h : Served k s s') :
    ∃ trace, Turn s trace s' := by
  cases h with
  | idle => exact ⟨[], .unasked (.refl s)⟩
  | network o => exact createNetwork_turn hquiet o s
  | route r => exact (planned k r hs).turn hquiet
  | refresh => exact (refreshed k s).turn hquiet

/-- The store of a session is the one that its log tells of. -/
structure Session.Accounted (s : Session σ) : Prop where
  installed : s.store.installed = .ofNat (fetched s.log).length
  current : s.current? = (fetched s.log).getLast?.map (.ofNat (fetched s.log).length, ·)

theorem Session.Stays.fetched_eq {trace : List Exchange} (h : s.Stays trace s') :
    fetched s'.log = fetched s.log := by
  rw [h.log, fetched_append, fetched_of_ne h.unasked, List.append_nil]

theorem Session.Accounted.stays {trace : List Exchange} (hs : s.Accounted)
    (h : s.Stays trace s') : s'.Accounted where
  installed := by rw [h.installed, h.fetched_eq, hs.installed]
  current := by rw [h.current, h.fetched_eq, hs.current]

theorem Turn.accounted {trace : List Exchange} (h : Turn s trace s') (hs : s.Accounted) :
    s'.Accounted := by
  cases h with
  | unasked hstays => exact hs.stays hstays
  | missed hnone hlog hstore =>
    have heq : fetched s'.log = fetched s.log := by
      rw [hlog, fetched_append, fetched_singleton, hnone]
      exact List.append_nil _
    constructor
    · rw [hstore, heq, hs.installed]
    · rw [Session.current?, hstore, heq]
      exact hs.current
  | @brought r t trace s₁ _ hsome hlog hinstalled hcurrent hstays =>
    have heq : fetched s₁.log = fetched s.log ++ [t] := by
      rw [hlog, fetched_append, fetched_singleton, hsome]
      rfl
    have hnext : s.store.installed + 1 = .ofNat ((fetched s.log).length + 1) := by
      rw [hs.installed, ← ofNat_succ]
    have hmiddle : s₁.Accounted := by
      constructor
      · rw [hinstalled, heq, hnext, List.length_append, List.length_singleton]
      · rw [hcurrent, heq, hnext, List.length_append, List.getLast?_concat]
        rfl
    exact hmiddle.stays hstays

theorem Turn.log {trace : List Exchange} (h : Turn s trace s') : s'.log = s.log ++ trace := by
  cases h with
  | unasked hstays => exact hstays.log
  | missed _ hlog _ => exact hlog
  | brought _ hlog _ _ hstays => rw [hstays.log, hlog, List.append_assoc, List.singleton_append]

theorem Turn.store {trace : List Exchange} (h : Turn s trace s') :
    (∀ x ∈ trace, x.call = .getPhysicalTopology → fetched? x = none → s'.store = s.store) ∧
    ∀ x ∈ trace, ∀ t, fetched? x = some t → s'.current? = some (s.store.installed + 1, t) := by
  cases h with
  | unasked hstays =>
    refine ⟨fun x hx hcall => absurd hcall (hstays.unasked x hx), fun x hx t ht => ?_⟩
    rw [fetched?_of_ne (hstays.unasked x hx)] at ht
    cases ht
  | missed hnone _ hstore =>
    simp only [List.forall_mem_singleton, hnone]
    exact ⟨fun _ _ => hstore, nofun⟩
  | brought hsome _ _ hcurrent hstays =>
    simp only [List.forall_mem_cons, hsome]
    refine ⟨⟨nofun, fun x hx hcall => absurd hcall (hstays.unasked x hx)⟩, ?_, fun x hx t ht => ?_⟩
    · rintro _ ⟨⟩
      rw [hstays.current, hcurrent]
    · rw [fetched?_of_ne (hstays.unasked x hx)] at ht
      cases ht

theorem Turn.length_fetched_le {trace : List Exchange} (h : Turn s trace s') :
    (fetched s'.log).length ≤ (fetched s.log).length + 1 := by
  cases h with
  | unasked hstays =>
    rw [hstays.fetched_eq]
    exact Nat.le_succ _
  | missed hnone hlog =>
    rw [hlog, fetched_append, fetched_singleton, hnone]
    simp
  | brought hsome hlog _ _ hstays =>
    rw [hstays.fetched_eq, hlog, fetched_append, fetched_singleton, hsome, List.length_append]
    exact Nat.le_refl _

end

theorem Session.length_fetched_after_le {k : Controller σ} (hquiet : k.Quiet) {s : Session σ}
    (hs : s.Orderly) (messages : List Json) :
    (fetched (s.after k messages).log).length ≤ (fetched s.log).length + messages.length := by
  induction messages generalizing s with
  | nil => exact Nat.le_refl _
  | cons v messages ih =>
    have hserved := served k v s
    obtain ⟨trace, hturn⟩ := hserved.turn hquiet hs
    have hfirst := hturn.length_fetched_le
    have hrest := ih (hserved.orderly hs)
    rw [List.length_cons]
    exact hrest.trans (by omega)

theorem Session.after_accounted {k : Controller σ} (hquiet : k.Quiet) (c : σ)
    (messages : List Json) : let s := Session.after k ⟨c, {}, []⟩ messages
    s.Orderly ∧ Session.GoesOn k ⟨c, {}, []⟩ s ∧ s.Accounted := by
  refine Session.after_of_served (I := fun s =>
    s.Orderly ∧ Session.GoesOn k ⟨c, {}, []⟩ s ∧ s.Accounted) ?_ ?_ messages
  · rintro s s' ⟨horderly, hgoes, haccounted⟩ hserved
    obtain ⟨trace, hturn⟩ := hserved.turn hquiet horderly
    exact ⟨hserved.orderly horderly, hserved.goesOn hgoes, hturn.accounted haccounted⟩
  · exact ⟨Session.orderly_start c [], .refl k _, rfl, rfl⟩

def numbered (snapshot : Snapshot) : Nat × Topology :=
  (snapshot.generation.toNat, snapshot.topology)

/-- After any messages, as far as numbers go, the current snapshot is the topology fetched last,
under the number of topologies fetched. A message for which nothing could be fetched leaves the
store as it was, path caches and all, and one for which a topology has been fetched leaves it
installed, whatever fails after that. -/
theorem after_fetched {k : Controller σ} (hquiet : k.Quiet) (c : σ) (messages : List Json) :
    let s := Session.after k ⟨c, {}, []⟩ messages
    Replies k c s.log s.controller ∧
    (messages.length < UInt64.size → s.store.current?.map numbered =
      (fetched s.log).getLast?.map ((fetched s.log).length, ·)) ∧
    ∀ v, let s' := (((methods k).answer v).run s).2
      ∃ trace, s'.log = s.log ++ trace ∧
        (∀ x ∈ trace, x.call = .getPhysicalTopology → fetched? x = none → s'.store = s.store) ∧
        ∀ x ∈ trace, ∀ t, fetched? x = some t →
          s'.current? = some (.ofNat ((fetched s.log).length + 1), t) := by
  intro s
  obtain ⟨horderly, ⟨trace, hlog, hreplies⟩, haccounted⟩ :=
    Session.after_accounted hquiet c messages
  rw [List.nil_append] at hlog
  refine ⟨hlog ▸ hreplies, ?_, ?_⟩
  · intro hfew
    have hlength : (fetched s.log).length ≤ messages.length :=
      (Session.length_fetched_after_le hquiet (Session.orderly_start c []) messages).trans
        (Nat.zero_add _).le
    have hnumber : (UInt64.ofNat (fetched s.log).length).toNat = (fetched s.log).length :=
      UInt64.toNat_ofNat_of_lt' (hlength.trans_lt hfew)
    have hnumbered : s.store.current?.map numbered =
        s.current?.map (Prod.map UInt64.toNat id) := by
      rw [Session.current?, Option.map_map]
      rfl
    rw [hnumbered, haccounted.current, Option.map_map]
    exact congrArg (Option.map · _) (funext fun t => congrArg (·, t) hnumber)
  · intro v s'
    obtain ⟨more, hturn⟩ := (served k v s).turn hquiet horderly
    obtain ⟨hmissed, hbrought⟩ := hturn.store
    refine ⟨more, hturn.log, hmissed, fun x hx t ht => ?_⟩
    rw [hbrought x hx t ht, haccounted.installed, ← ofNat_succ]

def undisturbed (d : Description) (failing? : Option Nat) : Controller Nat :=
  { counting d failing? with meanwhile := fun _ _ => [] }

theorem after_fetched_diamond :
    let k := undisturbed diamond (some 1)
    let messages := [requestFor (twoHosts "bigswitch" ⟨1⟩ ⟨4⟩)]
    let s := Session.after k ⟨0, {}, []⟩ messages
    k.Quiet ∧ messages.length < UInt64.size ∧
      s.log.map (·.call.method) = ["getPhysicalTopology", "createNetwork"] ∧
      s.store.current?.map numbered = some (1, builtDiamond) := by
  intro k messages s
  have hquiet : k.Quiet := fun _ _ => rfl
  have hfew : messages.length < UInt64.size := (by decide : 1 < UInt64.size)
  obtain ⟨-, hcurrent, -⟩ := after_fetched hquiet 0 messages
  have hfetched : fetched s.log = [builtDiamond] := rfl
  refine ⟨hquiet, hfew, by decide +kernel, (hcurrent hfew).trans ?_⟩
  rw [hfetched]
  rfl

end Planner
end Overlay
