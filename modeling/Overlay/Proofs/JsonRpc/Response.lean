import Overlay.JsonRpc.Message
import Overlay.Proofs.Json.Layout

namespace Overlay.JsonRpc

open Json

namespace Response

/-- The first member that is named for an outcome reports it. -/
inductive Reports [Source ν] : List (String × ν) → Except ErrorObject Json → Prop
  | result : m.1 = "result" → Source.value m.2 = .ok w → Reports (m :: ms) (.ok w)
  | error : m.1 = "error" → ErrorObject.codec.decode m.2 = .ok e → Reports (m :: ms) (.error e)
  | skip : m.1 ≠ "result" → m.1 ≠ "error" → Reports ms o → Reports (m :: ms) o

structure Reading [Source ν] (ms : List (String × ν)) (r : Response) : Prop where
  distinct : ms.Pairwise fun m n => inHeader m.1 → m.1 ≠ n.1
  version : ∃ v, ms.lookup "jsonrpc" = some v ∧ Codec.text.decode v = .ok r.jsonrpc
  id : match ms.lookup "id" with
    | some v => Source.value v = .ok r.id
    | none => r.id = .null
  readable : ∀ m ∈ ms, inHeader m.1 = false → ∃ w, Source.value m.2 = .ok w
  outcome : Reports ms r.outcome

def outcomeName : Except ErrorObject Json → String
  | .ok _ => "result"
  | .error _ => "error"

def namesOutcome (k : String) : Bool := k == "result" || k == "error"

section

variable {ν : Type} [Source ν] {ms : List (String × ν)}

theorem outcomeOf?_of_ne {m : String × ν} (hresult : m.1 ≠ "result") (herror : m.1 ≠ "error") :
    outcomeOf? m = none := by
  unfold outcomeOf?
  split
  · simp at hresult
  · simp at herror
  · rfl

theorem outcomeOf?_result {v : ν} {o : Except ErrorObject Json} :
    (outcomeOf? ("result", v)).getD (throw .noOutcome) = .ok o ↔
      ∃ w, Source.value v = .ok w ∧ o = .ok w := by
  change (do return Except.ok (← Source.value v) : Except DecodeError _) = .ok o ↔ _
  simp only [bind_eq_ok_iff]
  constructor
  · rintro ⟨w, hw, ⟨⟩⟩
    exact ⟨w, hw, rfl⟩
  · rintro ⟨w, hw, rfl⟩
    exact ⟨w, hw, rfl⟩

theorem outcomeOf?_error {v : ν} {o : Except ErrorObject Json} :
    (outcomeOf? ("error", v)).getD (throw .noOutcome) = .ok o ↔
      ∃ e, ErrorObject.codec.decode v = .ok e ∧ o = .error e := by
  change (do
    let s ← Source.shape v
    let e ← ErrorObject.layout.read "RpcError" (.tooLongBuffered · 3) s
    return .error e : Except DecodeError _) = .ok o ↔ _
  change _ ↔ ∃ e, (do ErrorObject.layout.read "RpcError" .tooLong (← Source.shape v)) = _ ∧ _
  simp only [bind_eq_ok_iff, Layout.read_eq_ok_congr (.tooLongBuffered · 3) .tooLong]
  constructor
  · rintro ⟨s, hs, e, he, ⟨⟩⟩
    exact ⟨e, ⟨s, hs, he⟩, rfl⟩
  · rintro ⟨e, ⟨s, hs, he⟩, rfl⟩
    exact ⟨s, hs, e, he, rfl⟩

theorem reports_iff {o : Except ErrorObject Json} :
    ((ms.filter fun m => !inHeader m.1).findSome? outcomeOf?).getD (throw .noOutcome) = .ok o ↔
      Reports ms o := by
  induction ms with
  | nil => exact ⟨nofun, nofun⟩
  | cons m ms ih =>
    by_cases hresult : m.1 = "result"
    · obtain ⟨k, v⟩ := m
      obtain rfl : k = "result" := hresult
      refine outcomeOf?_result.trans ⟨?_, ?_⟩
      · rintro ⟨w, hw, rfl⟩
        exact .result rfl hw
      · intro h
        cases h with
        | result _ hw => exact ⟨_, hw, rfl⟩
        | error herror => simp at herror
        | skip hne => exact absurd rfl hne
    · by_cases herror : m.1 = "error"
      · obtain ⟨k, v⟩ := m
        obtain rfl : k = "error" := herror
        refine outcomeOf?_error.trans ⟨?_, ?_⟩
        · rintro ⟨e, he, rfl⟩
          exact .error rfl he
        · intro h
          cases h with
          | result hresult' => exact absurd hresult' hresult
          | error _ he => exact ⟨_, he, rfl⟩
          | skip _ hne => exact absurd rfl hne
      · have hskip : (((m :: ms).filter fun m => !inHeader m.1).findSome? outcomeOf?) =
            (ms.filter fun m => !inHeader m.1).findSome? outcomeOf? := by
          cases hm : inHeader m.1 <;> simp [hm, outcomeOf?_of_ne hresult herror]
        rw [hskip, ih]
        constructor
        · exact .skip hresult herror
        · intro h
          cases h with
          | result hresult' => exact absurd hresult' hresult
          | error herror' => exact absurd herror' herror
          | skip _ _ h => exact h

theorem lookup_checks (k : String) : (header.checks (ν := ν)).lookup k =
    if k = "jsonrpc" then some fun v => discard (Codec.text.decode v)
    else if k = "id" then some fun v => discard (Source.value v)
    else none := by
  change [("jsonrpc", fun v => discard (Codec.text.decode v)),
    ("id", fun v => discard (Source.value v))].lookup k = _
  by_cases hversion : k = "jsonrpc"
  · simp [hversion]
  · by_cases hid : k = "id"
    · simp [hid, List.lookup_cons]
    · simp [hversion, hid, List.lookup_cons, beq_eq_false_iff_ne.mpr hversion,
        beq_eq_false_iff_ne.mpr hid]

theorem inHeader_iff {k : String} : inHeader k = true ↔ k = "jsonrpc" ∨ k = "id" := by
  unfold inHeader
  split <;> simp_all

theorem isSome_lookup_checks (k : String) :
    ((header.checks (ν := ν)).lookup k).isSome = inHeader k := by
  rw [Bool.eq_iff_iff, inHeader_iff, lookup_checks]
  by_cases hversion : k = "jsonrpc" <;> by_cases hid : k = "id" <;> simp [hversion, hid]

theorem named_header {jsonrpc : String} {id : Json} : header.named ms = .ok (jsonrpc, id) ↔
    (∃ v, ms.lookup "jsonrpc" = some v ∧ Codec.text.decode v = .ok jsonrpc) ∧
      match ms.lookup "id" with
      | some v => Source.value v = .ok id
      | none => id = .null := by
  rw [header, Layout.named_seq]
  simp only [Layout.named_map, Layout.named_field, Layout.named_optional]
  constructor
  · rintro ⟨_, _, ⟨_, hversion, rfl⟩, hid, ⟨⟩⟩
    exact ⟨hversion, hid⟩
  · rintro ⟨hversion, hid⟩
    exact ⟨_, _, ⟨_, hversion, rfl⟩, hid, rfl⟩

omit [Source ν] in
theorem lookup_of_mem (hdistinct : ms.Pairwise fun m n => inHeader m.1 → m.1 ≠ n.1)
    {m : String × ν} (hm : m ∈ ms) (hheader : inHeader m.1) : ms.lookup m.1 = some m.2 := by
  induction hdistinct with
  | nil => cases hm
  | @cons n ms hfresh _ ih =>
    rw [List.lookup_cons]
    cases hm with
    | head => rw [beq_self_eq_true]
    | tail _ hm =>
      have hne : m.1 ≠ n.1 := fun heq => hfresh m hm (heq ▸ hheader) heq.symm
      rw [beq_eq_false_iff_ne.mpr hne]
      exact ih hm

theorem visit_header {jsonrpc : String} {id : Json}
    (hnamed : header.named ms = .ok (jsonrpc, id)) :
    Layout.visit header.checks [] ms = .ok () ↔
      ms.Pairwise fun m n => inHeader m.1 → m.1 ≠ n.1 := by
  simp only [Layout.visit_eq_ok_iff, isSome_lookup_checks, List.not_mem_nil, not_false_eq_true,
    true_and, and_iff_right_iff_imp]
  intro hdistinct m hm check hcheck
  obtain ⟨⟨v, hv, hversion⟩, hid⟩ := named_header.mp hnamed
  have hlookup := lookup_of_mem hdistinct hm
  rw [lookup_checks] at hcheck
  split at hcheck
  case isTrue hk =>
    cases hcheck
    rw [hk] at hlookup
    obtain rfl : v = m.2 := Option.some.inj (hv.symm.trans (hlookup rfl))
    exact discard_eq_ok_iff.mpr ⟨_, hversion⟩
  case isFalse =>
    split at hcheck <;> cases hcheck
    next hk =>
      rw [hk] at hlookup
      rw [hlookup rfl] at hid
      exact discard_eq_ok_iff.mpr ⟨_, hid⟩

omit [Source ν] in
theorem forIn_discard_eq_ok_iff {β : Type} {f : α → Except ε β} {xs : List α} :
    (forIn xs () fun x _ => do discard (f x); return .yield ()) = .ok () ↔
      ∀ x ∈ xs, ∃ b, f x = .ok b := by
  induction xs with
  | nil => exact ⟨nofun, fun _ => rfl⟩
  | cons x xs ih =>
    rw [List.forall_mem_cons, ← ih, ← discard_eq_ok_iff]
    rw [List.forIn_cons]
    cases discard (f x) with
    | error e => exact ⟨nofun, nofun⟩
    | ok u => exact ⟨fun h => ⟨rfl, h⟩, And.right⟩

theorem decode_eq_ok_iff {v : ν} {r : Response} : codec.decode v = .ok r ↔
    ∃ ms, Source.shape v = .ok (.record ms) ∧ Reading ms r := by
  change decode v = .ok r ↔ _
  unfold decode
  simp only [bind_eq_ok_iff]
  constructor
  · rintro ⟨s, hs, h⟩
    cases s with
    | record ms =>
      simp only [bind_eq_ok_iff] at h
      obtain ⟨_, hvisit, _, hrest, ⟨jsonrpc, id⟩, hnamed, outcome, houtcome, ⟨⟩⟩ := h
      obtain ⟨hversion, hid⟩ := named_header.mp hnamed
      refine ⟨ms, hs, (visit_header hnamed).mp hvisit, hversion, hid, fun m hm hm' => ?_,
        reports_iff.mp houtcome⟩
      exact forIn_discard_eq_ok_iff.mp hrest m (by simp [hm, hm'])
    | _ => cases h
  · rintro ⟨ms, hs, hdistinct, hversion, hid, hreadable, houtcome⟩
    have hnamed := named_header.mpr ⟨hversion, hid⟩
    refine ⟨_, hs, ?_⟩
    simp only [bind_eq_ok_iff]
    refine ⟨(), (visit_header hnamed).mpr hdistinct, (), ?_, _, hnamed, _,
      reports_iff.mpr houtcome, rfl⟩
    refine forIn_discard_eq_ok_iff.mpr fun m hm => ?_
    rw [List.mem_filter, Bool.not_eq_true'] at hm
    exact hreadable m hm.1 hm.2

theorem Reports.first {o : Except ErrorObject Json} (h : Reports ms o) :
    (ms.map Prod.fst).find? namesOutcome = some (outcomeName o) := by
  induction h with
  | result hname _ => simp [namesOutcome, outcomeName, hname]
  | error hname _ => simp [namesOutcome, outcomeName, hname]
  | skip hresult herror _ ih => simp [namesOutcome, hresult, herror, ih]

theorem find?_namesOutcome {ks : List String} (hks : ks.Pairwise (· < ·)) (h : "error" ∈ ks) :
    ks.find? namesOutcome = some "error" := by
  induction hks with
  | nil => cases h
  | @cons k ks hfirst _ ih =>
    cases h with
    | head => rfl
    | tail _ h =>
      have hresult : k ≠ "result" := by
        rintro rfl
        exact absurd (hfirst _ h) (by decide)
      have herror : k ≠ "error" := fun heq => String.lt_irrefl _ (heq ▸ hfirst _ h)
      rw [List.find?_cons_of_neg (by simp [namesOutcome, hresult, herror])]
      exact ih h
end

theorem outcome_of_value {v : Json} {r : Response} (h : codec.decode v = .ok r) :
    r.isError = (v.member? "error").isSome ∧
      (r.isError = false → (v.member? "result").isSome) := by
  obtain ⟨ms, hshape, hreading⟩ := decode_eq_ok_iff.mp h
  have hfirst := hreading.outcome.first
  cases v with
  | obj members =>
    obtain rfl : Text.sortKeys members = ms := Shape.record.inj (Except.ok.inj hshape)
    have hmember (k : String) : ((Json.obj members).member? k).isSome ↔
        k ∈ (Text.sortKeys members).map Prod.fst := by
      rw [member?, List.lookup_isSome_iff, List.mem_map]
      exact exists_congr fun m => and_congr_right fun _ => beq_iff_eq.trans eq_comm
    have hnamed := List.mem_of_find?_eq_some hfirst
    unfold isError
    cases hr : r.outcome with
    | ok w =>
      rw [hr] at hfirst hnamed
      refine ⟨?_, fun _ => (hmember _).mpr hnamed⟩
      symm
      rw [Bool.eq_false_iff, ne_eq, hmember]
      intro herror
      have hascending := List.pairwise_map.mpr (Text.pairwise_sortKeys members)
      rw [find?_namesOutcome hascending herror] at hfirst
      simp [outcomeName] at hfirst
    | error e =>
      rw [hr] at hnamed
      exact ⟨((hmember _).mpr hnamed).symm, nofun⟩
  | _ => cases hshape

/-- Of a document the outcome that is written first decides. -/
theorem outcome_of_document {d : Document} {r : Response} (h : codec.decode d.whole = .ok r) :
    ∃ members, d = .record members ∧
      (members.filterMap (textOf? ·.1)).find? namesOutcome = some (outcomeName r.outcome) := by
  obtain ⟨ms, hshape, hreading⟩ := decode_eq_ok_iff.mp h
  obtain ⟨members, rfl, hnames⟩ := Part.members_of_shape hshape
  exact ⟨members, rfl, hnames ▸ hreading.outcome.first⟩

end Response
end Overlay.JsonRpc
