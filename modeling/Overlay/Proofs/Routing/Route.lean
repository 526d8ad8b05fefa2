import Overlay.Proofs.Routing.Path

namespace Overlay.Routing

open Fabric

namespace Hop

def entry (a : Hop) : Endpoint := ⟨a.dpid, a.inPort⟩

def exit (a : Hop) : Endpoint := ⟨a.dpid, a.outPort⟩

def LeadsTo (t : Topology) (a b : Hop) : Prop :=
  t.linkTowards? a.dpid b.dpid = some ⟨a.exit, b.entry⟩

end Hop

variable {t : Topology}

theorem along_cons_eq_ok_iff {inPort outPort : UInt16} {a b : Dpid} {way : List Dpid}
    {hops : Route} : Route.along t inPort outPort (a :: b :: way) = .ok hops ↔
      ∃ l rest, t.linkTowards? a b = some l ∧
        Route.along t l.dst.port outPort (b :: way) = .ok rest ∧
        hops = ⟨inPort, a, l.src.port⟩ :: rest := by
  constructor
  · intro h
    rw [Route.along] at h
    cases hlink : t.linkTowards? a b with
    | none => rw [hlink] at h; cases h
    | some l =>
      simp only [hlink] at h
      cases hrest : Route.along t l.dst.port outPort (b :: way) with
      | error e => rw [hrest] at h; cases h
      | ok rest =>
        rw [hrest] at h
        exact ⟨l, rest, rfl, hrest, (Except.ok.inj h).symm⟩
  · rintro ⟨l, rest, hlink, hrest, rfl⟩
    simp only [Route.along, hlink, hrest]
    rfl

theorem along_eq_ok_iff {inPort outPort : UInt16} {way : List Dpid} {hops : Route}
    (hne : way ≠ []) : Route.along t inPort outPort way = .ok hops ↔
      hops.map (·.dpid) = way ∧ hops.head?.map (·.inPort) = some inPort ∧
        hops.getLast?.map (·.outPort) = some outPort ∧ hops.IsChain (Hop.LeadsTo t) := by
  induction way generalizing inPort hops with
  | nil => exact absurd rfl hne
  | cons a way ih =>
    cases way with
    | nil =>
      constructor
      · intro h
        obtain rfl : [⟨inPort, a, outPort⟩] = hops := Except.ok.inj h
        simp
      · rintro ⟨hdpids, hin, hout, -⟩
        obtain ⟨hop, rfl, rfl⟩ := List.map_eq_singleton_iff.mp hdpids
        obtain rfl : hop.inPort = inPort := by simpa using hin
        obtain rfl : hop.outPort = outPort := by simpa using hout
        rfl
    | cons b way =>
      rw [along_cons_eq_ok_iff]
      constructor
      · rintro ⟨l, rest, hlink, hrest, rfl⟩
        obtain ⟨hdpids, hin, hout, hchain⟩ := (ih (by simp)).mp hrest
        obtain ⟨next, rest, rfl, hnext, hdpids⟩ := List.map_eq_cons_iff.mp hdpids
        obtain ⟨-, ha, hb, -⟩ := Topology.linkTowards?_eq_some hlink
        have hport : next.inPort = l.dst.port := by simpa using hin
        have hentry : l.dst = next.entry := by rw [Hop.entry, hport, hnext, ← hb]
        have hexit : l.src = Hop.exit ⟨inPort, a, l.src.port⟩ := by
          change l.src = ⟨a, l.src.port⟩
          rw [← ha]
        refine ⟨by simp [hnext, hdpids], by simp, by simpa using hout, ?_⟩
        refine List.isChain_cons_cons.mpr ⟨?_, hchain⟩
        rw [Hop.LeadsTo, hnext, ← hentry, ← hexit]
        exact hlink
      · rintro ⟨hdpids, hin, hout, hchain⟩
        obtain ⟨first, rest, rfl, rfl, hrest⟩ := List.map_eq_cons_iff.mp hdpids
        obtain ⟨next, rest, rfl, rfl, -⟩ := List.map_eq_cons_iff.mp hrest
        obtain ⟨hleads, hchain⟩ := List.isChain_cons_cons.mp hchain
        obtain rfl : first.inPort = inPort := by simpa using hin
        refine ⟨_, _, hleads, (ih (by simp)).mpr ⟨hrest, rfl, ?_, hchain⟩, rfl⟩
        simpa using hout

theorem exists_along (inPort outPort : UInt16) {way : List Dpid}
    (hway : way.IsChain (Adjacent t.neighbours)) :
    ∃ hops, Route.along t inPort outPort way = .ok hops := by
  induction way generalizing inPort with
  | nil => exact ⟨[], rfl⟩
  | cons a way ih =>
    cases way with
    | nil => exact ⟨_, rfl⟩
    | cons b way =>
      obtain ⟨hjoined, hrest⟩ := List.isChain_cons_cons.mp hway
      obtain ⟨l, hlink⟩ := Topology.exists_linkTowards? hjoined
      obtain ⟨rest, hrest⟩ := ih l.dst.port hrest
      exact ⟨_, along_cons_eq_ok_iff.mpr ⟨l, rest, hlink, hrest, rfl⟩⟩

structure Routed (t : Topology) (entry exit : Endpoint) (hops : Route) : Prop where
  enters : hops.head?.map Hop.entry = some entry
  leaves : hops.getLast?.map Hop.exit = some exit
  least : LeastWalk (Adjacent t.neighbours) entry.dpid exit.dpid (hops.map (·.dpid))
  linked : hops.IsChain (Hop.LeadsTo t)

theorem map_entry_eq_some {hop : Option Hop} {port : Endpoint} :
    hop.map Hop.entry = some port ↔
      hop.map (·.dpid) = some port.dpid ∧ hop.map (·.inPort) = some port.port := by
  cases port
  cases hop <;> simp [Hop.entry]

theorem map_exit_eq_some {hop : Option Hop} {port : Endpoint} :
    hop.map Hop.exit = some port ↔
      hop.map (·.dpid) = some port.dpid ∧ hop.map (·.outPort) = some port.port := by
  cases port
  cases hop <;> simp [Hop.exit]

theorem declared_of_walk {src dst : Dpid} {way : List Dpid}
    (hwalk : Walk (Adjacent t.neighbours) src dst way) (hne : src ≠ dst) :
    src ∈ t.switches ∧ dst ∈ t.switches := by
  induction hwalk with
  | start => exact absurd rfl hne
  | @step a way b _ hjoined ih =>
    obtain ⟨ha, hb⟩ := Topology.neighbours_declared hjoined
    by_cases hsrc : src = a
    · exact ⟨hsrc ▸ ha, hb⟩
    · exact ⟨(ih hsrc).1, hb⟩

theorem mem_switches_of_walk {src dst : Dpid} {way : List Dpid}
    (hwalk : Walk (Adjacent t.neighbours) src dst way) (hsrc : src ∈ t.switches) :
    ∀ a ∈ way, a ∈ t.switches := by
  induction hwalk with
  | start => simpa using hsrc
  | step _ hjoined ih =>
    intro a ha
    obtain ha | ha := List.mem_append.mp ha
    · exact ih a ha
    · obtain rfl := List.mem_singleton.mp ha
      exact (Topology.neighbours_declared hjoined).2

theorem routed_of_same {entry exit : Endpoint} {hops : Route} (hsame : entry.dpid = exit.dpid) :
    Routed t entry exit hops ↔ hops = [⟨entry.port, entry.dpid, exit.port⟩] := by
  constructor
  · rintro ⟨henters, hleaves, hleast, -⟩
    rw [← hsame] at hleast
    have hdpids : hops.map (·.dpid) = [entry.dpid] := LeastWalk.start.unique hleast
    obtain ⟨hop, rfl, -⟩ := List.map_eq_singleton_iff.mp hdpids
    obtain rfl : hop.entry = entry := by simpa using henters
    obtain rfl : hop.exit = exit := by simpa using hleaves
    rfl
  · rintro rfl
    refine ⟨rfl, ?_, hsame ▸ .start, .singleton _⟩
    simp [Hop.exit, hsame]

theorem routed_of_ne {entry exit : Endpoint} {hops : Route} (hne : entry.dpid ≠ exit.dpid) :
    Routed t entry exit hops ↔ ∃ way, t.path entry.dpid exit.dpid = .ok way ∧
      Route.along t entry.port exit.port way = .ok hops := by
  constructor
  · rintro ⟨henters, hleaves, hleast, hlinked⟩
    obtain ⟨hsrc, hdst⟩ := declared_of_walk hleast.walk hne
    refine ⟨_, (path_eq_ok_iff hdst hsrc).mpr hleast, (along_eq_ok_iff hleast.walk.ne_nil).mpr ?_⟩
    exact ⟨rfl, (map_entry_eq_some.mp henters).2, (map_exit_eq_some.mp hleaves).2, hlinked⟩
  · rintro ⟨way, hpath, halong⟩
    have hleast := least_of_path hpath
    obtain ⟨rfl, hin, hout, hlinked⟩ := (along_eq_ok_iff hleast.walk.ne_nil).mp halong
    obtain ⟨hhead, hlast, -⟩ := Walk.iff_isChain.mp hleast.walk
    rw [List.head?_map] at hhead
    rw [List.getLast?_map] at hlast
    exact ⟨map_entry_eq_some.mpr ⟨hhead, hin⟩, map_exit_eq_some.mpr ⟨hlast, hout⟩, hleast, hlinked⟩

theorem route_eq_ok_iff {entry exit : Endpoint} {hops : Route} :
    t.route entry exit = .ok hops ↔ Routed t entry exit hops := by
  rw [Topology.route]
  by_cases hsame : entry.dpid = exit.dpid
  · rw [if_pos hsame, routed_of_same hsame]
    simp [eq_comm]
  · rw [if_neg hsame, routed_of_ne hsame]
    cases t.path entry.dpid exit.dpid <;> simp

theorem exists_route_iff {entry exit : Endpoint} (hentry : entry.dpid ∈ t.switches)
    (hexit : exit.dpid ∈ t.switches) : (∃ hops, t.route entry exit = .ok hops) ↔
      ∃ way, Walk (Adjacent t.neighbours) entry.dpid exit.dpid way := by
  constructor
  · rintro ⟨hops, hroute⟩
    exact ⟨_, (route_eq_ok_iff.mp hroute).least.walk⟩
  · intro hwalk
    rw [Topology.route]
    by_cases hsame : entry.dpid = exit.dpid
    · rw [if_pos hsame]
      exact ⟨_, rfl⟩
    · obtain ⟨way, hpath, hleast⟩ := exists_path_of_walk hexit hentry hwalk
      rw [if_neg hsame, hpath]
      exact exists_along _ _ (Walk.iff_isChain.mp hleast.walk).2.2

theorem mem_switches_of_route {entry exit : Endpoint} {hops : Route}
    (h : t.route entry exit = .ok hops) (hentry : entry.dpid ∈ t.switches) :
    ∀ hop ∈ hops, hop.dpid ∈ t.switches := by
  intro hop hhop
  have hwalk := (route_eq_ok_iff.mp h).least.walk
  exact mem_switches_of_walk hwalk hentry _ (List.mem_map_of_mem hhop)

theorem route_ne_noLink (entry exit : Endpoint) (a b : Dpid) :
    t.route entry exit ≠ .error (.noLink a b) := by
  rw [Topology.route]
  by_cases hsame : entry.dpid = exit.dpid
  · rw [if_pos hsame]
    simp
  · rw [if_neg hsame]
    cases hpath : t.path entry.dpid exit.dpid with
    | error e => simp
    | ok way =>
      have hchain := (Walk.iff_isChain.mp (least_of_path hpath).walk).2.2
      obtain ⟨hops, halong⟩ := exists_along entry.port exit.port hchain
      simp [halong]

theorem Routed.stretch {entry exit : Endpoint} {hops : Route} (h : Routed t entry exit hops)
    {i j : Nat} (hij : i ≤ j) (hj : j < hops.length) :
    Routed t hops[i].entry hops[j].exit (hops.extract i (j + 1)) := by
  have hsplit : hops = hops.take i ++ hops.extract i (j + 1) ++ hops.drop (j + 1) := by
    have hdrop : (hops.drop i).drop (j + 1 - i) = hops.drop (j + 1) := by
      rw [List.drop_drop]
      congr 1
      omega
    rw [List.append_assoc, ← hdrop, List.extract_eq_take_drop, List.take_append_drop,
      List.take_append_drop]
  have hhead : (hops.extract i (j + 1)).head? = some hops[i] := by
    rw [List.extract_eq_take_drop, List.head?_take, if_neg (by omega), List.head?_drop,
      List.getElem?_eq_getElem]
  have hlast : (hops.extract i (j + 1)).getLast? = some hops[j] := by
    have hlast : i + (j + 1 - i - 1) = j := by omega
    rw [List.extract_eq_take_drop, List.getLast?_take, if_neg (by omega), List.getElem?_drop,
      hlast, List.getElem?_eq_getElem hj, Option.some_or]
  obtain ⟨-, -, hleast, hlinked⟩ := h
  rw [hsplit] at hleast hlinked
  rw [List.map_append, List.map_append] at hleast
  have hchain := (Walk.iff_isChain.mp hleast.walk).2.2.left_of_append.right_of_append
  constructor
  case enters => rw [hhead]; rfl
  case leaves => rw [hlast]; rfl
  case least =>
    apply hleast.stretch
    apply Walk.iff_isChain.mpr
    refine ⟨?_, ?_, hchain⟩
    · rw [List.head?_map, hhead]
      rfl
    · rw [List.getLast?_map, hlast]
      rfl
  case linked => exact hlinked.left_of_append.right_of_append

/-- Routes agree: what a route does between two of its hops is the route from the one to the other,
for whatever queries were made before either. -/
theorem route_stretch (earlier : List Query) {entry exit : Endpoint} {hops : Route}
    (hroute : ((Query.route entry exit).run t (PathCache.after t earlier)).1 = .ok hops)
    {i j : Nat} (hij : i ≤ j) (hj : j < hops.length) (later : List Query) :
    ((Query.route ⟨hops[i].dpid, hops[i].inPort⟩ ⟨hops[j].dpid, hops[j].outPort⟩).run t
      (PathCache.after t later)).1 = .ok (hops.extract i (j + 1)) := by
  rw [PathCache.run_after] at hroute ⊢
  exact route_eq_ok_iff.mpr ((route_eq_ok_iff.mp hroute).stretch hij hj)

theorem route_stretch_diamond :
    ((Query.route ⟨⟨5⟩, 9⟩ ⟨⟨4⟩, 8⟩).run builtDiamond (PathCache.after builtDiamond [])).1 =
      .ok [⟨9, ⟨5⟩, 1⟩, ⟨3, ⟨1⟩, 1⟩, ⟨1, ⟨2⟩, 65535⟩, ⟨2, ⟨4⟩, 8⟩] ∧ 1 ≤ 2 ∧ 2 < 4 ∧
    ((Query.route ⟨⟨1⟩, 3⟩ ⟨⟨2⟩, 65535⟩).run builtDiamond
      (PathCache.after builtDiamond [.tree ⟨1⟩])).1 = .ok [⟨3, ⟨1⟩, 1⟩, ⟨1, ⟨2⟩, 65535⟩] := by
  have hroute : ((Query.route ⟨⟨5⟩, 9⟩ ⟨⟨4⟩, 8⟩).run builtDiamond
      (PathCache.after builtDiamond [])).1 =
      .ok [⟨9, ⟨5⟩, 1⟩, ⟨3, ⟨1⟩, 1⟩, ⟨1, ⟨2⟩, 65535⟩, ⟨2, ⟨4⟩, 8⟩] := by decide +kernel
  have hij : 1 ≤ 2 := by decide
  have hj : 2 < 4 := by decide
  exact ⟨hroute, hij, hj, route_stretch [] hroute hij hj [.tree ⟨1⟩]⟩

/-- Two hops are wired when a link leads from the one to the other and no link between their
switches has a lower source port. -/
def Hop.Wired (d : Description) (a b : Hop) : Prop :=
  ∃ l ∈ d.links, l.src = ⟨a.dpid, a.outPort⟩ ∧ l.dst = ⟨b.dpid, b.inPort⟩ ∧
    ∀ k ∈ d.links, k.src.dpid = a.dpid → k.dst.dpid = b.dpid → a.outPort ≤ k.src.port

theorem Hop.LeadsTo.wired {d : Description} (h : Topology.build d = .ok t) {a b : Hop}
    (hleads : Hop.LeadsTo t a b) : Hop.Wired d a b := by
  obtain ⟨hmem, -, -, hlowest⟩ := Topology.linkTowards?_eq_some hleads
  refine ⟨_, (Topology.mem_links_of_build h).mp hmem, rfl, rfl, fun k hk => ?_⟩
  exact hlowest k ((Topology.mem_links_of_build h).mpr hk)

/-- A route runs from port to port over wired hops, along a shortest walk. It never lacks a link. -/
theorem route_reply {d : Description} (h : Topology.build d = .ok t) (earlier : List Query)
    (entry exit : Endpoint) :
    let reply := ((Query.route entry exit).run t (PathCache.after t earlier)).1
    (∀ a b, reply ≠ .error (.noLink a b)) ∧
    ∀ hops, reply = .ok hops →
      (∃ first, hops.head? = some first ∧ first.dpid = entry.dpid ∧ first.inPort = entry.port) ∧
      (∃ last, hops.getLast? = some last ∧ last.dpid = exit.dpid ∧ last.outPort = exit.port) ∧
      (hops.map (·.dpid)).Nodup ∧
      ShortestWalk d.Joined entry.dpid exit.dpid (hops.map (·.dpid)) ∧
      (∀ way, ShortestWalk d.Joined entry.dpid exit.dpid way → hops.length = way.length) ∧
      hops.IsChain (Hop.Wired d) := by
  rw [PathCache.run_after]
  change let reply := t.route entry exit; _
  intro reply
  refine ⟨route_ne_noLink entry exit, fun hops hreply => ?_⟩
  obtain ⟨henters, hleaves, hleast, hlinked⟩ := route_eq_ok_iff.mp hreply
  rw [joined_of_build h] at hleast
  obtain ⟨first, hfirst, rfl⟩ := Option.map_eq_some_iff.mp henters
  obtain ⟨last, hlast, rfl⟩ := Option.map_eq_some_iff.mp hleaves
  refine ⟨⟨first, hfirst, rfl, rfl⟩, ⟨last, hlast, rfl, rfl⟩, hleast.nodup,
    hleast.toShortestWalk, fun way hway => ?_, hlinked.imp fun _ _ => Hop.LeadsTo.wired h⟩
  have hle := hleast.shortest way hway.walk
  have hge := hway.shortest _ hleast.walk
  rw [List.length_map] at hle hge
  exact Nat.le_antisymm hle hge

theorem route_reply_diamond : Topology.build diamond = .ok builtDiamond ∧
    (([⟨9, ⟨1⟩, 1⟩, ⟨1, ⟨2⟩, 65535⟩, ⟨2, ⟨4⟩, 0⟩] : Route).map (·.dpid)).Nodup ∧
    ShortestWalk diamond.Joined ⟨1⟩ ⟨4⟩ [⟨1⟩, ⟨2⟩, ⟨4⟩] ∧
    ([⟨9, ⟨1⟩, 1⟩, ⟨1, ⟨2⟩, 65535⟩, ⟨2, ⟨4⟩, 0⟩] : Route).IsChain (Hop.Wired diamond) := by
  have hroute : ((Query.route ⟨⟨1⟩, 9⟩ ⟨⟨4⟩, 0⟩).run builtDiamond
      (PathCache.after builtDiamond [])).1 =
      .ok [⟨9, ⟨1⟩, 1⟩, ⟨1, ⟨2⟩, 65535⟩, ⟨2, ⟨4⟩, 0⟩] := by decide +kernel
  obtain ⟨-, -, hnodup, hshortest, -, hwired⟩ :=
    (route_reply build_diamond [] ⟨⟨1⟩, 9⟩ ⟨⟨4⟩, 0⟩).2 _ hroute
  exact ⟨build_diamond, hnodup, hshortest, hwired⟩

end Overlay.Routing
