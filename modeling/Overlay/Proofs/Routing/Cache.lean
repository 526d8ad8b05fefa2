import Overlay.Routing.PathCache

namespace Overlay.Routing

open Fabric

inductive Query
  | tree (src : Dpid)
  | path (src dst : Dpid)
  | route (entry exit : Endpoint)
  deriving DecidableEq, Repr

namespace Query

abbrev Reply : Query → Type
  | tree _ => Except TopologyError SearchTree
  | path _ _ => Except TopologyError (List Dpid)
  | route _ _ => Except RouteError Route

def run (t : Topology) : (q : Query) → PathCache → q.Reply × PathCache
  | tree src, c => (PathCache.tree t src).run.run c
  | path src dst, c => (PathCache.path t src dst).run.run c
  | route entry exit, c => (PathCache.route t entry exit).run.run c

def answer (t : Topology) : (q : Query) → q.Reply
  | tree src => t.tree src
  | path src dst => t.path src dst
  | route entry exit => t.route entry exit

end Query

theorem path_eq (t : Topology) (src dst : Dpid) : t.path src dst =
    if t.contains dst then
      match t.tree src with
      | .ok found =>
        match found.pathTo? dst with
        | some way => .ok way
        | none => .error (.disconnected src dst)
      | .error e => .error e
    else .error (.unknownSwitch dst) := by
  unfold Topology.path
  cases t.contains dst with
  | false => rfl
  | true => cases t.tree src <;> rfl

/-- An attempt that has failed is not followed by another, and what it has changed stays so. -/
theorem run_bind (q : ExceptT ε (StateM σ) α) (next : α → ExceptT ε (StateM σ) β) (s : σ) :
    (q >>= next).run.run s =
      match q.run.run s with
      | (.ok a, s) => (next a).run.run s
      | (.error e, s) => (.error e, s) := by
  change (match q s with | (reply, s) => ExceptT.bindCont next reply s) = _
  change _ = match q s with
    | (.ok a, s) => (next a).run.run s
    | (.error e, s) => (.error e, s)
  rcases q s with ⟨_ | _, _⟩ <;> rfl

theorem run_liftExcept (reply : Except ε α) (s : σ) :
    (liftExcept reply : ExceptT ε (StateM σ) α).run.run s = (reply, s) := by
  cases reply <;> rfl

namespace PathCache

section

variable {t : Topology} {c : PathCache}

theorem run_tree (src : Dpid) : (tree t src).run.run c =
    if t.contains src then
      match c.find? src with
      | some kept => (.ok kept, c)
      | none => (.ok (.grow t src), c.add (.grow t src))
    else (.error (.unknownSwitch src), c) := by
  unfold tree
  cases t.contains src with
  | false => rfl
  | true =>
    change (match c.find? src with | some kept => _ | none => _ : PathQuery _ _).run.run c = _
    cases c.find? src <;> rfl

theorem run_path (src dst : Dpid) : (path t src dst).run.run c =
    if t.contains dst then
      match (tree t src).run.run c with
      | (.ok found, c) =>
        match found.pathTo? dst with
        | some way => (.ok way, c)
        | none => (.error (.disconnected src dst), c)
      | (.error e, c) => (.error e, c)
    else (.error (.unknownSwitch dst), c) := by
  unfold path
  cases t.contains dst with
  | false => rfl
  | true =>
    refine (run_bind (tree t src) _ c).trans ?_
    rcases (tree t src).run.run c with ⟨_ | found, c⟩
    · rfl
    · cases h : found.pathTo? dst <;> simp [h] <;> rfl

theorem run_route (entry exit : Endpoint) : (route t entry exit).run.run c =
    if entry.dpid = exit.dpid then (.ok [⟨entry.port, entry.dpid, exit.port⟩], c)
    else
      match (path t entry.dpid exit.dpid).run.run c with
      | (.ok way, c) => (Route.along t entry.port exit.port way, c)
      | (.error e, c) => (.error (.noRoute entry.dpid exit.dpid e), c) := by
  unfold route
  by_cases h : entry.dpid = exit.dpid
  · rw [if_pos h, if_pos h]
    rfl
  · rw [if_neg h, if_neg h]
    generalize path t entry.dpid exit.dpid = q
    refine (run_bind (ExceptT.lift q.run) _ c).trans ?_
    have hlift : (ExceptT.lift q.run : PathQuery RouteError _).run.run c =
        (.ok (q.run.run c).1, (q.run.run c).2) := rfl
    rw [hlift]
    rcases q.run.run c with ⟨_ | way, c⟩
    · rfl
    · exact run_liftExcept _ c

end

def Sound (t : Topology) (c : PathCache) : Prop := ∀ tree ∈ c.trees, tree = .grow t tree.root

namespace Sound

variable {t : Topology} {c : PathCache}

theorem empty (t : Topology) : Sound t {} := nofun

theorem add (h : Sound t c) (src : Dpid) : Sound t (c.add (.grow t src)) := by
  intro tree htree
  cases List.mem_append.mp htree with
  | inl hold => exact h tree hold
  | inr hnew =>
    rw [List.mem_singleton.mp hnew]
    rfl

theorem find?_eq (h : Sound t c) {src : Dpid} {tree : SearchTree}
    (hfind : c.find? src = some tree) : tree = .grow t src := by
  have hroot : tree.root = src := by simpa using List.find?_some hfind
  rw [h tree (List.mem_of_find?_eq_some hfind), hroot]

theorem tree (h : Sound t c) (src : Dpid) :
    ∃ c', (PathCache.tree t src).run.run c = (t.tree src, c') ∧ Sound t c' := by
  rw [run_tree, Topology.tree]
  by_cases hsrc : t.contains src
  · rw [if_pos hsrc, if_pos hsrc]
    cases hfind : c.find? src with
    | none => exact ⟨_, rfl, h.add src⟩
    | some kept => exact ⟨c, by rw [h.find?_eq hfind], h⟩
  · rw [if_neg hsrc, if_neg hsrc]
    exact ⟨c, rfl, h⟩

theorem path (h : Sound t c) (src dst : Dpid) :
    ∃ c', (PathCache.path t src dst).run.run c = (t.path src dst, c') ∧ Sound t c' := by
  rw [run_path, path_eq]
  by_cases hdst : t.contains dst
  · obtain ⟨c', hrun, hc'⟩ := h.tree src
    rw [if_pos hdst, if_pos hdst, hrun]
    refine ⟨c', ?_, hc'⟩
    cases t.tree src with
    | error e => rfl
    | ok found => cases h : found.pathTo? dst <;> simp [h]
  · rw [if_neg hdst, if_neg hdst]
    exact ⟨c, rfl, h⟩

theorem route (h : Sound t c) (entry exit : Endpoint) :
    ∃ c', (PathCache.route t entry exit).run.run c = (t.route entry exit, c') ∧ Sound t c' := by
  rw [run_route, Topology.route]
  by_cases hsame : entry.dpid = exit.dpid
  · rw [if_pos hsame, if_pos hsame]
    exact ⟨c, rfl, h⟩
  · obtain ⟨c', hrun, hc'⟩ := h.path entry.dpid exit.dpid
    rw [if_neg hsame, if_neg hsame, hrun]
    refine ⟨c', ?_, hc'⟩
    cases t.path entry.dpid exit.dpid <;> rfl

/-- A sound cache answers as none would, and stays sound. -/
theorem run (h : Sound t c) (q : Query) : ∃ c', q.run t c = (q.answer t, c') ∧ Sound t c' := by
  cases q with
  | tree src => exact h.tree src
  | path src dst => exact h.path src dst
  | route entry exit => exact h.route entry exit

end Sound

def after (t : Topology) (queries : List Query) : PathCache :=
  queries.foldl (fun c q => (q.run t c).2) {}

theorem sound_after (t : Topology) (queries : List Query) : Sound t (after t queries) := by
  suffices hfold : ∀ c, Sound t c → Sound t (queries.foldl (fun c q => (q.run t c).2) c) from
    hfold {} (.empty t)
  induction queries with
  | nil => exact fun _ h => h
  | cons q queries ih =>
    intro c h
    obtain ⟨c', hrun, hc'⟩ := h.run q
    rw [List.foldl_cons, hrun]
    exact ih c' hc'

theorem run_after (t : Topology) (queries : List Query) (q : Query) :
    (q.run t (after t queries)).1 = q.answer t := by
  obtain ⟨c', hrun, -⟩ := (sound_after t queries).run q
  rw [hrun]

end PathCache
end Overlay.Routing
