import Overlay.Controller.Basic
import Overlay.Tenant.ProvisioningError
/-!
# Plans

A plan says what is asked of a controller and how each reply is gone on from. It knows nothing of
sessions: neither the state of a controller, nor snapshots, nor path caches. A run of a plan is a
list of exchanges with an end: a call that fails ends it, and so does an error of the plan's own.
-/
namespace Overlay

open Controller

def Controller.Exchange.Succeeded (x : Exchange) : Prop := ∃ a, x.reply = .ok a

def Controller.Call.tenant? : Call → Option TenantId
  | .getPhysicalTopology => none
  | .createNetwork .. => none
  | .createSwitch t _ => some t
  | .createLink t _ => some t
  | .createHost t .. => some t
  | .createSwitchRoute t .. => some t
  | .startNetwork t => some t

def Tenant.Stage.ofCall : Call → Stage
  | .getPhysicalTopology => fetchTopology
  | .createNetwork .. => createNetwork
  | .createSwitch .. => createSwitch
  | .createLink .. => createLink
  | .createHost .. => createHost
  | .createSwitchRoute .. => createSwitchRoute
  | .startNetwork .. => startNetwork

end Overlay

namespace Overlay.Planner

open Controller Tenant

inductive Plan (α : Type) : Type
  | done : α → Plan α
  | stop : ProvisioningError → Plan α
  | ask : (c : Call) → (c.Reply → Plan α) → Plan α

namespace Plan

def bind : Plan α → (α → Plan β) → Plan β
  | .done a, f => f a
  | .stop e, _ => .stop e
  | .ask c next, f => .ask c fun a => (next a).bind f

instance : Monad Plan where
  pure := .done
  bind := bind

@[simp] theorem done_bind (a : α) (f : α → Plan β) : Plan.done a >>= f = f a := rfl

@[simp] theorem stop_bind (e : ProvisioningError) (f : α → Plan β) :
    Plan.stop e >>= f = .stop e := rfl

@[simp] theorem ask_bind (c : Call) (next : c.Reply → Plan α) (f : α → Plan β) :
    Plan.ask c next >>= f = .ask c fun a => next a >>= f := rfl

theorem bind_done (p : Plan α) : p >>= Plan.done = p := by
  induction p with
  | done a => rfl
  | stop e => rfl
  | ask c next ih =>
    rw [ask_bind]
    congr 1
    funext a
    exact ih a

theorem bind_assoc (p : Plan α) (f : α → Plan β) (g : β → Plan γ) :
    p >>= f >>= g = p >>= fun a => f a >>= g := by
  induction p with
  | done a => rfl
  | stop e => rfl
  | ask c next ih =>
    simp only [ask_bind]
    congr 1
    funext a
    exact ih a

instance : LawfulMonad Plan := LawfulMonad.mk' Plan bind_done done_bind bind_assoc

def call (c : Call) : Plan c.Reply := .ask c .done

def ofExcept : Except ProvisioningError α → Plan α
  | .ok a => .done a
  | .error e => .stop e

/-- The runs of a plan. A call that fails is the last one, and its failure is the end. -/
inductive Runs : Plan α → List Exchange → Except ProvisioningError α → Prop
  | done : Runs (.done a) [] (.ok a)
  | stop : Runs (.stop e) [] (.error e)
  | failed {c : Call} {next : c.Reply → Plan α} (f : Failure) :
    Runs (.ask c next) [⟨c, .error f⟩] (.error (.controller (.ofCall c) c.tenant? f))
  | replied {c : Call} {next : c.Reply → Plan α} (a : c.Reply) : Runs (next a) trace reply →
    Runs (.ask c next) (⟨c, .ok a⟩ :: trace) reply

section

variable {p : Plan α} {f : α → Plan β} {trace : List Exchange}

@[simp] theorem runs_done {a : α} {reply : Except ProvisioningError α} :
    Runs (.done a) trace reply ↔ trace = [] ∧ reply = .ok a := by
  constructor
  · rintro ⟨⟩
    simp
  · rintro ⟨rfl, rfl⟩
    exact .done

@[simp] theorem runs_stop {e : ProvisioningError} {reply : Except ProvisioningError α} :
    Runs (.stop e) trace reply ↔ trace = [] ∧ reply = .error e := by
  constructor
  · rintro ⟨⟩
    simp
  · rintro ⟨rfl, rfl⟩
    exact .stop

@[simp] theorem runs_ofExcept {r reply : Except ProvisioningError α} :
    Runs (.ofExcept r) trace reply ↔ trace = [] ∧ reply = r := by
  cases r <;> simp [ofExcept]

theorem runs_call {c : Call} {reply : Except ProvisioningError c.Reply} :
    Runs (call c) trace reply ↔ ∃ r : Except Failure c.Reply,
      trace = [⟨c, r⟩] ∧ reply = r.mapError (.controller (.ofCall c) c.tenant?) := by
  constructor
  · intro h
    cases h with
    | failed f => exact ⟨.error f, rfl, rfl⟩
    | replied a h =>
      cases h
      exact ⟨.ok a, rfl, rfl⟩
  · rintro ⟨_ | a, rfl, rfl⟩
    · exact .failed _
    · exact .replied a .done

theorem Runs.bind_error (h : p.Runs trace (.error e)) : (p >>= f).Runs trace (.error e) := by
  induction p generalizing trace with
  | done a => cases h
  | stop e => cases h; exact .stop
  | ask c next ih =>
    cases h with
    | failed f => exact .failed f
    | replied a h => exact .replied a (ih a h)

theorem Runs.bind_ok {a : α} {after : List Exchange} {reply : Except ProvisioningError β}
    (h : p.Runs trace (.ok a)) (hf : (f a).Runs after reply) :
    (p >>= f).Runs (trace ++ after) reply := by
  induction p generalizing trace with
  | done a => cases h; exact hf
  | stop e => cases h
  | ask c next ih =>
    cases h with
    | replied b h => exact .replied b (ih b h)

theorem runs_bind {reply : Except ProvisioningError β} : (p >>= f).Runs trace reply ↔
    (∃ e, p.Runs trace (.error e) ∧ reply = .error e) ∨
    ∃ a before after, p.Runs before (.ok a) ∧ (f a).Runs after reply ∧
      trace = before ++ after := by
  constructor
  · intro h
    induction p generalizing trace with
    | done a => exact .inr ⟨a, [], trace, .done, h, rfl⟩
    | stop e => cases h; exact .inl ⟨e, .stop, rfl⟩
    | ask c next ih =>
      cases h with
      | failed failure => exact .inl ⟨_, .failed failure, rfl⟩
      | replied a h =>
        obtain ⟨e, he, rfl⟩ | ⟨b, before, after, hb, hf, rfl⟩ := ih a h
        · exact .inl ⟨e, .replied a he, rfl⟩
        · exact .inr ⟨b, _, after, .replied a hb, hf, rfl⟩
  · rintro (⟨e, he, rfl⟩ | ⟨a, before, after, ha, hf, rfl⟩)
    · exact he.bind_error
    · exact ha.bind_ok hf

theorem runs_ofExcept_bind {r : Except ProvisioningError α}
    {reply : Except ProvisioningError β} : (ofExcept r >>= f).Runs trace reply ↔
      (∃ e, r = .error e ∧ trace = [] ∧ reply = .error e) ∨
      ∃ a, r = .ok a ∧ (f a).Runs trace reply := by
  cases r <;> simp [ofExcept]

theorem runs_call_bind {c : Call} {f : c.Reply → Plan β}
    {reply : Except ProvisioningError β} : (call c >>= f).Runs trace reply ↔
      (∃ failure, trace = [⟨c, .error failure⟩] ∧
        reply = .error (.controller (.ofCall c) c.tenant? failure)) ∨
      ∃ a after, trace = ⟨c, .ok a⟩ :: after ∧ (f a).Runs after reply := by
  constructor
  · intro h
    cases h with
    | failed failure => exact .inl ⟨failure, rfl, rfl⟩
    | replied a h => exact .inr ⟨a, _, rfl, h⟩
  · rintro (⟨failure, rfl, rfl⟩ | ⟨a, after, rfl, h⟩)
    · exact .failed failure
    · exact .replied a h

end
section

variable {p : Plan α} {f : α → Plan β} {trace : List Exchange}

theorem Runs.failed_last {before after : List Exchange} {x : Exchange} {failure : Failure}
    {reply : Except ProvisioningError α} (h : p.Runs trace reply)
    (htrace : trace = before ++ x :: after) (hx : x.reply = .error failure) :
    after = [] ∧ reply = .error (.controller (.ofCall x.call) x.call.tenant? failure) := by
  -- The split falls on the first exchange of the run or on one of the others.
  induction h generalizing before with
  | done => simp at htrace
  | stop => simp at htrace
  | failed g =>
    obtain ⟨rfl, heq⟩ | ⟨_, rfl, heq⟩ := List.cons_eq_append_iff.mp htrace
    · cases heq
      cases hx
      exact ⟨rfl, rfl⟩
    · simp at heq
  | replied b _ ih =>
    obtain ⟨rfl, heq⟩ | ⟨_, rfl, heq⟩ := List.cons_eq_append_iff.mp htrace
    · cases heq
      cases hx
    · exact ih heq

theorem Runs.forM_ok {g : α → Plan PUnit} {l : List α} {trace : List Exchange}
    (h : (l.forM g).Runs trace (.ok ())) : ∀ a ∈ l, ∃ part, (g a).Runs part (.ok ()) := by
  induction l generalizing trace with
  | nil => exact List.forall_mem_nil _
  | cons a l ih =>
    obtain ⟨e, -, he⟩ | ⟨_, before, after, ha, hl, -⟩ := runs_bind.mp h
    · cases he
    · exact List.forall_mem_cons.mpr ⟨⟨before, ha⟩, ih hl⟩

theorem Runs.forM_error {g : α → Plan PUnit} {l : List α} {trace : List Exchange}
    {e : ProvisioningError} (h : (l.forM g).Runs trace (.error e)) :
    ∃ before a after done rest, l = before ++ a :: after ∧ (before.forM g).Runs done (.ok ()) ∧
      (g a).Runs rest (.error e) ∧ trace = done ++ rest := by
  induction l generalizing trace with
  | nil => cases h
  | cons a l ih =>
    obtain ⟨_, ha, ⟨⟩⟩ | ⟨_, first, next, ha, hl, rfl⟩ := runs_bind.mp h
    · exact ⟨[], a, l, [], trace, rfl, .done, ha, rfl⟩
    · obtain ⟨before, b, after, done, rest, rfl, hbefore, hb, rfl⟩ := ih hl
      refine ⟨a :: before, b, after, first ++ done, rest, rfl, ?_, hb, ?_⟩
      · exact ha.bind_ok hbefore
      · rw [List.append_assoc]

theorem Runs.succeeded_before {before after : List Exchange} {x y : Exchange}
    {reply : Except ProvisioningError α} (h : p.Runs trace reply)
    (htrace : trace = before ++ x :: after) (hy : y ∈ before) : y.Succeeded := by
  obtain ⟨first, next, rfl⟩ := List.append_of_mem hy
  cases hreply : y.reply with
  | ok a => exact ⟨a, hreply⟩
  | error failure =>
    rw [List.append_assoc, List.cons_append] at htrace
    have := (h.failed_last htrace hreply).1
    simp at this

/-- The errors of a plan's own have a property. -/
def StopsWith (P : ProvisioningError → Prop) : Plan α → Prop
  | .done _ => True
  | .stop e => P e
  | .ask _ next => ∀ a, (next a).StopsWith P

variable {P : ProvisioningError → Prop}

theorem stopsWith_call (c : Call) : (call c).StopsWith P := fun _ => trivial

theorem stopsWith_ofExcept {r : Except ProvisioningError α} (h : ∀ e, r = .error e → P e) :
    (ofExcept r).StopsWith P := by
  cases r with
  | ok a => trivial
  | error e => exact h e rfl

theorem StopsWith.bind (hp : p.StopsWith P) (hf : ∀ a, (f a).StopsWith P) :
    (p >>= f).StopsWith P := by
  induction p with
  | done a => exact hf a
  | stop e => exact hp
  | ask c next ih => exact fun a => ih a (hp a)

theorem StopsWith.forM {g : α → Plan PUnit} {l : List α} (h : ∀ a ∈ l, (g a).StopsWith P) :
    (l.forM g).StopsWith P := by
  induction l with
  | nil => trivial
  | cons a l ih => exact .bind (h a (.head _)) fun _ => ih fun b hb => h b (.tail _ hb)

theorem StopsWith.mapM {l : List α} (h : ∀ a ∈ l, (f a).StopsWith P) :
    (l.mapM f).StopsWith P := by
  induction l with
  | nil => trivial
  | cons a l ih =>
    rw [List.mapM_cons]
    refine .bind (h a (.head _)) fun b => .bind (ih ?_) fun _ => trivial
    intro b hb
    exact h b (.tail _ hb)

theorem Runs.error_cases {e : ProvisioningError} (h : p.Runs trace (.error e))
    (hp : p.StopsWith P) :
    (∃ before x failure, trace = before ++ [x] ∧ x.reply = .error failure ∧
      e = .controller (.ofCall x.call) x.call.tenant? failure) ∨
    (∀ x ∈ trace, x.Succeeded) ∧ P e := by
  generalize hreply : Except.error e = reply at h
  induction h with
  | done => cases hreply
  | stop =>
    cases hreply
    exact .inr ⟨List.forall_mem_nil _, hp⟩
  | @failed c next failure =>
    cases hreply
    exact .inl ⟨[], ⟨c, .error failure⟩, failure, rfl, rfl, rfl⟩
  | @replied _ _ c next a _ ih =>
    obtain ⟨before, x, failure, rfl, hx, he⟩ | ⟨hall, he⟩ := ih (hp a) hreply
    · exact .inl ⟨_ :: before, x, failure, rfl, hx, he⟩
    · exact .inr ⟨List.forall_mem_cons.mpr ⟨⟨a, rfl⟩, hall⟩, he⟩

end

/-- A run issues the calls of a list one after another, all of them unless it ends with an error. -/
structure Issues (calls : List Call) (trace : List Exchange)
    (reply : Except ProvisioningError α) : Prop where
  ordered : trace.map (·.call) <+: calls
  complete : ∀ a, reply = .ok a → trace.map (·.call) = calls

section

variable {p : Plan α} {f : α → Plan β} {calls more : List Call} {trace after : List Exchange}
  {reply : Except ProvisioningError β}

theorem Issues.mem {x : Exchange} (h : Issues calls trace reply) (hx : x ∈ trace) :
    x.call ∈ calls :=
  h.ordered.subset (List.mem_map_of_mem hx)

theorem issues_one (x : Exchange) : Issues [x.call] [x] reply :=
  ⟨List.prefix_refl _, fun _ _ => rfl⟩

theorem Issues.append {a : α} (h : Issues calls trace (.ok a : Except ProvisioningError α))
    (hafter : Issues more after reply) : Issues (calls ++ more) (trace ++ after) reply where
  ordered := by
    rw [List.map_append, h.complete a rfl, List.prefix_append_right_inj]
    exact hafter.ordered
  complete b hb := by rw [List.map_append, h.complete a rfl, hafter.complete b hb]

theorem Issues.cut {e : ProvisioningError}
    (h : Issues calls trace (.error e : Except ProvisioningError α)) :
    Issues (calls ++ more) trace (.error e : Except ProvisioningError β) where
  ordered := h.ordered.trans (List.prefix_append _ _)
  complete := nofun

def Keeps (p : Plan α) (calls : List Call) : Prop :=
  ∀ trace reply, p.Runs trace reply → Issues calls trace reply

theorem keeps_ofExcept (r : Except ProvisioningError α) : (ofExcept r).Keeps [] := by
  intro trace reply h
  obtain ⟨rfl, -⟩ := runs_ofExcept.mp h
  exact ⟨List.prefix_refl _, fun _ _ => rfl⟩

theorem keeps_done (a : α) : (Plan.done a).Keeps [] := keeps_ofExcept (.ok a)

theorem keeps_call (c : Call) : (call c).Keeps [c] := by
  intro trace reply h
  obtain ⟨r, rfl, -⟩ := runs_call.mp h
  exact issues_one ⟨c, r⟩

theorem Keeps.bind (hp : p.Keeps calls) (hf : ∀ a, (f a).Keeps more) :
    (p >>= f).Keeps (calls ++ more) := by
  intro trace reply h
  obtain ⟨e, hstop, rfl⟩ | ⟨a, before, after, hbefore, hafter, rfl⟩ := runs_bind.mp h
  · exact (hp _ _ hstop).cut
  · exact (hp _ _ hbefore).append (hf a _ _ hafter)

theorem Keeps.forM {g : α → Plan PUnit} {next : α → List Call} {l : List α}
    (h : ∀ a, (g a).Keeps (next a)) : (l.forM g).Keeps (l.flatMap next) := by
  induction l with
  | nil => exact keeps_done ()
  | cons a l ih => exact .bind (h a) fun _ => ih

theorem Keeps.mapM {next : α → List Call} {l : List α} (h : ∀ a, (f a).Keeps (next a)) :
    (l.mapM f).Keeps (l.flatMap next) := by
  induction l with
  | nil => exact keeps_done []
  | cons a l ih =>
    rw [List.mapM_cons, List.flatMap_cons]
    refine .bind (h a) fun b => ?_
    rw [← List.append_nil (l.flatMap next)]
    exact .bind ih fun bs => keeps_done (b :: bs)

end
end Plan
end Overlay.Planner
