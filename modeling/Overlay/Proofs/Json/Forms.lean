import Mathlib.Data.List.Forall2
import Mathlib.Data.List.Nodup
import Overlay.Proofs.Json.Layout
/-!
# Forms of records

A record has many written forms: its fields in order as a list, or each under its name in an object
that may hold other members, the fields themselves being in any of their own forms. A layout that
is described by its slots writes one of these forms and reads them all.
-/
namespace Overlay.Json

structure Slot where
  name : String
  forms : Json → Prop
  omissible : Prop

namespace Slot

def field (name : String) (forms : Json → Prop) : Slot := ⟨name, forms, False⟩

def optional (name : String) (forms : Json → Prop) (omissible : Prop) : Slot :=
  ⟨name, forms, omissible⟩

@[simp] theorem name_field {name : String} {forms : Json → Prop} :
    (field name forms).name = name := rfl

@[simp] theorem name_optional {name : String} {forms : Json → Prop} {omissible : Prop} :
    (optional name forms omissible).name = name := rfl

def Allows (s : Slot) : Option Json → Prop
  | some v => s.forms v
  | none => s.omissible

end Slot

inductive RecordForm (slots : List Slot) : Json → Prop
  | listed : List.Forall₂ Slot.forms slots vs → RecordForm slots (.arr vs)
  | named : (∀ s ∈ slots, s.Allows ((Json.obj ms).member? s.name)) → RecordForm slots (.obj ms)

inductive ListForm (form : α → Json → Prop) (as : List α) : Json → Prop
  | items : List.Forall₂ form as vs → ListForm form as (.arr vs)

/-- Each value is written in one of its forms and read from all of them. -/
structure Codec.Faithful (c : Codec α) (form : α → Json → Prop) : Prop where
  encode : ∀ a, form a (c.encode a)
  decode : form a v → c.decode v = .ok a

namespace Layout

inductive Emits : List Slot → List (String × Json) → Prop
  | nil : Emits [] []
  | cons : s.forms v → Emits ss ms → Emits (s :: ss) ((s.name, v) :: ms)
  | skip : s.omissible → Emits ss ms → Emits (s :: ss) ms

/-- The slots say how a layout writes a record, and what it builds from any form of it. -/
structure Describes (l : Layout ρ α) (slots : ρ → List Slot) (get : ρ → α) : Prop where
  members : ∀ r, Emits (slots r) (l.members r)
  checks : ∀ r {name} {check : Json → Except DecodeError Unit},
    l.checks.lookup name = some check →
      ∃ s ∈ slots r, s.name = name ∧ ∀ v, s.forms v → check v = .ok ()
  named : ∀ r {ms : List (String × Json)}, (∀ s ∈ slots r, s.Allows (ms.lookup s.name)) →
    l.named ms = .ok (get r)
  placed : ∀ r short {vs : List Json} (rest : List Json), List.Forall₂ Slot.forms (slots r) vs →
    l.placed short (vs ++ rest) = .ok (get r, rest)

variable {ρ α β : Type} {c : Codec α} {form : α → Json → Prop} {ss ts : List Slot}
  {ms ns : List (String × Json)}

theorem Emits.append (h : Emits ss ms) (h' : Emits ts ns) : Emits (ss ++ ts) (ms ++ ns) := by
  induction h with
  | nil => exact h'
  | cons hv _ ih => exact .cons hv ih
  | skip ho _ ih => exact .skip ho ih

theorem Emits.mem_names (h : Emits ss ms) {k : String} (hk : k ∈ ms.map Prod.fst) :
    k ∈ ss.map Slot.name := by
  induction h with
  | nil => cases hk
  | cons _ _ ih =>
    cases hk with
    | head => exact .head _
    | tail _ hk => exact .tail _ (ih hk)
  | skip _ _ ih => exact .tail _ (ih hk)

theorem Emits.allows (h : Emits ss ms) (hnodup : (ss.map Slot.name).Nodup) :
    ∀ s ∈ ss, s.Allows ((Json.obj ms).member? s.name) := by
  -- Members are looked up from the last on, but no two of them have one name.
  have hmissing {k : String} {ss : List Slot} {ms : List (String × Json)} (h : Emits ss ms)
      (hk : k ∉ ss.map Slot.name) : ms.reverse.lookup k = none := by
    rw [List.lookup_eq_none_iff]
    intro m hm
    rw [bne_iff_ne]
    rintro rfl
    exact hk (h.mem_names (List.mem_map_of_mem (List.mem_reverse.mp hm)))
  simp only [member?_obj]
  induction h with
  | nil => exact nofun
  | @cons ss ms s v hv h ih =>
    obtain ⟨hs, hss⟩ := List.nodup_cons.mp hnodup
    intro s' hs'
    rw [List.reverse_cons, List.lookup_append, List.lookup_cons]
    cases hs' with
    | head =>
      rw [hmissing h hs, beq_self_eq_true]
      exact hv
    | tail _ hs' =>
      have hne : (s'.name == s.name) = false := by
        rw [beq_eq_false_iff_ne]
        exact fun heq => hs (heq ▸ List.mem_map_of_mem hs')
      rw [hne]
      simpa using ih hss s' hs'
  | @skip ss ms s ho h ih =>
    obtain ⟨hs, hss⟩ := List.nodup_cons.mp hnodup
    intro s' hs'
    cases hs' with
    | head =>
      rw [hmissing h hs]
      exact ho
    | tail _ hs' => exact ih hss s' hs'

theorem describes_pure (a : α) : (pure a : Layout ρ α).Describes (fun _ => []) fun _ => a where
  members _ := .nil
  checks _ := nofun
  named _ _ _ := rfl
  placed _ _ _ _ h := by
    cases h
    rfl

omit ms in
theorem exists_append_of_forall₂ {vs : List Json} (h : List.Forall₂ Slot.forms (ss ++ ts) vs) :
    ∃ us ws, vs = us ++ ws ∧ List.Forall₂ Slot.forms ss us ∧ List.Forall₂ Slot.forms ts ws := by
  induction ss generalizing vs with
  | nil => exact ⟨[], vs, rfl, .nil, h⟩
  | cons s ss ih =>
    obtain ⟨v, vs, hv, hvs, rfl⟩ := List.forall₂_cons_left_iff.mp h
    obtain ⟨us, ws, rfl, hus, hws⟩ := ih hvs
    exact ⟨v :: us, ws, rfl, .cons hv hus, hws⟩

theorem Describes.seq {f : Layout ρ (α → β)} {x : Layout ρ α} {slots slots' : ρ → List Slot}
    {g : ρ → α → β} {get : ρ → α} (hf : f.Describes slots g) (hx : x.Describes slots' get) :
    (f <*> x).Describes (fun r => slots r ++ slots' r) fun r => g r (get r) where
  members r := (hf.members r).append (hx.members r)
  checks r name check h := by
    change (f.checks ++ x.checks).lookup name = some check at h
    rw [List.lookup_append, Option.or_eq_some_iff] at h
    rcases h with h | ⟨-, h⟩
    · obtain ⟨s, hs, hname, hcheck⟩ := hf.checks r h
      exact ⟨s, List.mem_append_left _ hs, hname, hcheck⟩
    · obtain ⟨s, hs, hname, hcheck⟩ := hx.checks r h
      exact ⟨s, List.mem_append_right _ hs, hname, hcheck⟩
  named r ms h := by
    obtain ⟨hslots, hslots'⟩ := List.forall_mem_append.mp h
    exact named_seq.mpr ⟨g r, get r, hf.named r hslots, hx.named r hslots', rfl⟩
  placed r short vs rest h := by
    obtain ⟨us, ws, rfl, hus, hws⟩ := exists_append_of_forall₂ h
    change (do
      let (g, vs) ← f.placed short (us ++ ws ++ rest)
      let (a, vs) ← x.placed short vs
      return (g a, vs)) = _
    rw [List.append_assoc, hf.placed r short (ws ++ rest) hus]
    change (do
      let (a, vs) ← x.placed short (ws ++ rest)
      return (g r a, vs)) = _
    rw [hx.placed r short rest hws]
    rfl

theorem Describes.map {x : Layout ρ α} {slots : ρ → List Slot} {get : ρ → α}
    (h : x.Describes slots get) (g : α → β) :
    (g <$> x).Describes slots fun r => g (get r) :=
  (describes_pure g).seq h

theorem checks_singleton {name k : String} {slot : Slot}
    {check : Json → Except DecodeError Unit} (hname : slot.name = name)
    (hdecode : ∀ v, slot.forms v → ∃ a, c.decode v = .ok a)
    (h : [(name, fun v => do discard (c.decode v))].lookup k = some check) :
    ∃ s ∈ [slot], s.name = k ∧ ∀ v, s.forms v → check v = .ok () := by
  rw [List.lookup_cons] at h
  split at h
  next hk =>
    cases h
    refine ⟨slot, .head _, hname.trans (beq_iff_eq.mp hk).symm, fun v hv => ?_⟩
    exact discard_eq_ok_iff.mpr (hdecode v hv)
  next => cases h

theorem describes_field {name : String} {get : ρ → α} (hc : c.Faithful form) :
    (field name get c).Describes (fun r => [.field name (form (get r))]) get where
  members r := .cons (hc.encode (get r)) .nil
  checks r k check := checks_singleton rfl fun v hv => ⟨get r, hc.decode hv⟩
  named r ms h := by
    have hslot : (Slot.field name (form (get r))).Allows (ms.lookup name) := h _ (.head _)
    rw [named_field]
    cases hv : ms.lookup name with
    | none =>
      rw [hv] at hslot
      exact hslot.elim
    | some v =>
      rw [hv] at hslot
      exact ⟨v, rfl, hc.decode hslot⟩
  placed r short vs rest h := by
    obtain ⟨v, _, hv, hnil, rfl⟩ := List.forall₂_cons_left_iff.mp h
    cases hnil
    change (do return (← c.decode v, rest)) = _
    rw [hc.decode hv]
    rfl

/-- What an optional field holds may change once by being written and read. -/
theorem describes_settling {name : String} {get : ρ → α} {default : α} {omitted : α → Bool}
    {settled : α → α} (hencode : ∀ a, form a (c.encode a))
    (hdecode : ∀ {a v}, form a v → c.decode v = .ok (settled a))
    (hdefault : settled default = default) (homitted : ∀ a, omitted a = true → a = default) :
    (optional name get c default omitted).Describes
      (fun r => [.optional name (form (get r)) (get r = default)]) fun r => settled (get r) where
  members r := by
    change Emits _ (if omitted (get r) then [] else [(name, c.encode (get r))])
    split
    · next h => exact .skip (homitted _ h) .nil
    · exact .cons (hencode (get r)) .nil
  checks r k check := checks_singleton rfl fun v hv => ⟨settled (get r), hdecode hv⟩
  named r ms h := by
    have hslot : (Slot.optional name (form (get r)) (get r = default)).Allows (ms.lookup name) :=
      h _ (.head _)
    rw [named_optional]
    cases hv : ms.lookup name with
    | none =>
      rw [hv] at hslot
      exact (congrArg settled hslot).trans hdefault
    | some v =>
      rw [hv] at hslot
      exact hdecode hslot
  placed r short vs rest h := by
    obtain ⟨v, _, hv, hnil, rfl⟩ := List.forall₂_cons_left_iff.mp h
    cases hnil
    change (do return (← c.decode v, rest)) = _
    rw [hdecode hv]
    rfl

theorem describes_optional {name : String} {get : ρ → α} {default : α} {omitted : α → Bool}
    (hc : c.Faithful form) (homitted : ∀ a, omitted a = true → a = default) :
    (optional name get c default omitted).Describes
      (fun r => [.optional name (form (get r)) (get r = default)]) get :=
  describes_settling hc.encode hc.decode rfl homitted

theorem lookup_of_mem_sortKeys {m : String × Json} (h : m ∈ Text.sortKeys ms) :
    (Text.sortKeys ms).lookup m.1 = some m.2 := by
  have hsorted := Text.pairwise_sortKeys ms
  generalize Text.sortKeys ms = ns at h hsorted ⊢
  induction hsorted with
  | nil => cases h
  | @cons n ns hfirst _ ih =>
    rw [List.lookup_cons]
    cases h with
    | head => rw [beq_self_eq_true]
    | tail _ h =>
      have hne : (m.1 == n.1) = false := beq_eq_false_iff_ne.mpr fun heq =>
        String.lt_irrefl _ (heq ▸ hfirst m h)
      rw [hne]
      exact ih h

variable {l : Layout ρ ρ} {slots : ρ → List Slot} {get : ρ → ρ} {r : ρ} {v : Json}

theorem Describes.decode (h : l.Describes slots get) (name : String)
    (hform : RecordForm (slots r) v) : (l.codec name).decode v = .ok (get r) := by
  cases hform with
  | @listed vs hvs =>
    change l.read name .tooLong (.list vs) = _
    have hplaced := h.placed r (.tooShort vs.length name (l.checks (ν := Json)).length) [] hvs
    rw [List.append_nil] at hplaced
    rw [read, hplaced]
    rfl
  | @named ms hms =>
    change l.read name .tooLong (.record (Text.sortKeys ms)) = _
    have hvisit : visit l.checks [] (Text.sortKeys ms) = .ok () := by
      refine visit_eq_ok_iff.mpr ⟨fun m hm check hcheck => ⟨List.not_mem_nil, ?_⟩, ?_⟩
      · obtain ⟨s, hs, hname, hforms⟩ := h.checks r hcheck
        have hslot := hms s hs
        rw [hname, member?, lookup_of_mem_sortKeys hm] at hslot
        exact hforms _ hslot
      · exact (Text.pairwise_sortKeys ms).imp fun hlt _ heq => String.lt_irrefl _ (heq ▸ hlt)
    rw [read, hvisit]
    exact h.named r hms

theorem Describes.encode (h : l.Describes slots get) (name : String)
    (hnodup : ((slots r).map Slot.name).Nodup) :
    RecordForm (slots r) ((l.codec name).encode r) :=
  .named ((h.members r).allows hnodup)

end Layout

theorem faithful_record {l : Layout ρ ρ} {slots : ρ → List Slot} (name : String)
    (h : l.Describes slots fun r => r) (hnodup : ∀ r, ((slots r).map Slot.name).Nodup) :
    (l.codec name).Faithful fun r => RecordForm (slots r) where
  encode r := h.encode name (hnodup r)
  decode hform := h.decode name hform

theorem faithful_list {c : Codec α} {form : α → Json → Prop} (hc : c.Faithful form) :
    (Codec.list c).Faithful (ListForm form) where
  encode as := by
    refine .items (List.forall₂_map_right_iff.mpr ?_)
    exact List.forall₂_same.mpr fun a _ => hc.encode a
  decode h := by
    obtain ⟨hvs⟩ := h
    change List.mapM c.decode _ = _
    induction hvs with
    | nil => rfl
    | cons hv _ ih =>
      rw [List.mapM_cons, hc.decode hv]
      change (do return _ :: (← List.mapM c.decode _)) = _
      rw [ih]
      rfl

theorem faithful_through {c : Codec α} {form : α → Json → Prop} {wrap : α → β} {unwrap : β → α}
    (hc : c.Faithful form) (hwrap : ∀ b, wrap (unwrap b) = b) :
    (c.through wrap unwrap).Faithful fun b => form (unwrap b) where
  encode b := hc.encode (unwrap b)
  decode {b v} h := by
    change (do return wrap (← c.decode v)) = _
    rw [hc.decode h]
    exact congrArg Except.ok (hwrap b)

theorem faithful_text : Codec.text.Faithful fun s v => v = .str s where
  encode _ := rfl
  decode h := by
    subst h
    rfl

theorem faithful_any : Codec.any.Faithful fun a v => v = a where
  encode _ := rfl
  decode h := by
    subst h
    rfl

theorem readInt_int {n low : Int} {high : Option Int} (name : String) (hlow : low ≤ n)
    (hhigh : ∀ h ∈ high, n ≤ h) : Codec.readInt low high name (Json.int n) = .ok n := by
  have hall : high.all (n ≤ ·) = true := by
    rw [Option.all_eq_true]
    exact fun h hh => decide_eq_true (hhigh h hh)
  exact if_pos ⟨hlow, hall⟩

theorem faithful_port : Codec.port.Faithful fun n v => v = .int n.toNat where
  encode _ := rfl
  decode {n v} h := by
    subst h
    have hhigh : ∀ h ∈ some ((UInt16.size : Int) - 1), (n.toNat : Int) ≤ h := by
      rintro _ ⟨⟩
      exact Int.le_sub_one_of_lt (Int.ofNat_lt.mpr n.toNat_lt_size)
    change (do return UInt16.ofNat (← Codec.readInt 0 _ "u16" (Json.int n.toNat)).toNat) = _
    rw [readInt_int _ (Int.natCast_nonneg _) hhigh]
    exact congrArg Except.ok UInt16.ofNat_toNat

theorem faithful_word : Codec.word.Faithful fun n v => v = .ofWord n where
  encode _ := rfl
  decode {n v} h := by
    subst h
    have hhigh : ∀ h ∈ some ((UInt64.size : Int) - 1), (n.toNat : Int) ≤ h := by
      rintro _ ⟨⟩
      exact Int.le_sub_one_of_lt (Int.ofNat_lt.mpr n.toNat_lt_size)
    change (do return UInt64.ofNat (← Codec.readInt 0 _ "u64" (Json.int n.toNat)).toNat) = _
    rw [readInt_int _ (Int.natCast_nonneg _) hhigh]
    exact congrArg Except.ok UInt64.ofNat_toNat

theorem faithful_signedWord : Codec.signedWord.Faithful fun n v => v = .int n.toInt where
  encode _ := rfl
  decode {n v} h := by
    subst h
    have hhigh : ∀ h ∈ some Int64.maxValue.toInt, n.toInt ≤ h := by
      rintro _ ⟨⟩
      exact n.toInt_le
    change (do return Int64.ofInt (← Codec.readInt Int64.minValue.toInt _ "i64"
      (Json.int n.toInt))) = _
    rw [readInt_int _ n.minValue_le_toInt hhigh]
    exact congrArg Except.ok n.ofInt_toInt

theorem faithful_count (name : String) : (Codec.count name).Faithful fun n v => v = .ofNat n where
  encode _ := rfl
  decode h := by
    subst h
    rfl

end Overlay.Json
