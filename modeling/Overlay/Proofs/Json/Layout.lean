import Overlay.Json.Codec

namespace Overlay.Json

theorem bind_eq_ok_iff {x : Except ε α} {f : α → Except ε β} {b : β} :
    x >>= f = .ok b ↔ ∃ a, x = .ok a ∧ f a = .ok b := by
  cases x with
  | error e => exact ⟨nofun, by rintro ⟨_, ⟨⟩, _⟩⟩
  | ok a => exact ⟨fun h => ⟨a, rfl, h⟩, by rintro ⟨_, ⟨⟩, h⟩; exact h⟩

theorem bind_eq_error_iff {x : Except ε α} {f : α → Except ε β} {e : ε} :
    x >>= f = .error e ↔ x = .error e ∨ ∃ a, x = .ok a ∧ f a = .error e := by
  cases x with
  | error e' =>
    constructor
    · rintro ⟨⟩
      exact .inl rfl
    · rintro (h | ⟨_, ⟨⟩, _⟩)
      cases h
      rfl
  | ok a =>
    constructor
    · exact fun h => .inr ⟨a, rfl, h⟩
    · rintro (h | ⟨_, ⟨⟩, h⟩)
      · cases h
      · exact h

theorem discard_eq_ok_iff {x : Except ε α} : discard x = .ok () ↔ ∃ a, x = .ok a := by
  cases x with
  | error e => exact ⟨nofun, nofun⟩
  | ok a => exact ⟨fun _ => ⟨a, rfl⟩, fun _ => rfl⟩

theorem mapError_eq_ok_iff {f : ε → ε'} {x : Except ε α} {a : α} :
    x.mapError f = .ok a ↔ x = .ok a := by
  cases x with
  | error e => exact ⟨nofun, nofun⟩
  | ok b =>
    constructor
    · rintro ⟨⟩
      rfl
    · rintro ⟨⟩
      rfl

def first? (name : String) : Json → Option Json
  | .arr vs => vs.head?
  | v => v.member? name

theorem first?_of_member? {name : String} {v w : Json} (h : v.member? name = some w) :
    v.first? name = some w := by
  cases v with
  | obj ms => exact h
  | _ => cases h

namespace Layout

/-- Members pass a visit when no known name is repeated and every known one has a value that
reads. -/
theorem visit_eq_ok_iff {checks : List (String × (ν → Except DecodeError Unit))}
    {seen : List String} {ms : List (String × ν)} : visit checks seen ms = .ok () ↔
      (∀ m ∈ ms, ∀ check, checks.lookup m.1 = some check → m.1 ∉ seen ∧ check m.2 = .ok ()) ∧
      ms.Pairwise fun m n => (checks.lookup m.1).isSome → m.1 ≠ n.1 := by
  induction ms generalizing seen with
  | nil => simp [visit]
  | cons m ms ih =>
    obtain ⟨k, v⟩ := m
    rw [List.pairwise_cons, List.forall_mem_cons]
    cases hk : checks.lookup k with
    | none => simp [visit, hk, ih]
    | some check =>
      by_cases hseen : k ∈ seen
      · simp [visit, hk, hseen]
      · simp only [visit, hk, if_neg hseen, bind_eq_ok_iff, ih, List.mem_cons, not_or]
        constructor
        · rintro ⟨⟨⟩, hcheck, hrest, hdistinct⟩
          refine ⟨⟨?_, fun m hm check' hm' => ?_⟩, fun m hm _ => ?_, hdistinct⟩
          · rintro _ ⟨⟩
            exact ⟨hseen, hcheck⟩
          · obtain ⟨⟨-, hunseen⟩, hm'⟩ := hrest m hm check' hm'
            exact ⟨hunseen, hm'⟩
          · rintro rfl
            exact absurd rfl (hrest m hm check hk).1.1
        · rintro ⟨⟨hcheck, hrest⟩, hfresh, hdistinct⟩
          refine ⟨(), (hcheck check rfl).2, fun m hm check' hm' => ?_, hdistinct⟩
          obtain ⟨hunseen, hm'⟩ := hrest m hm check' hm'
          refine ⟨⟨?_, hunseen⟩, hm'⟩
          rintro heq
          exact hfresh m hm rfl heq.symm

theorem read_eq_ok_congr [Source ν] {l : Layout ρ α} {name : String} {s : Shape ν} {a : α}
    (f g : Nat → DecodeError) : l.read name f s = .ok a ↔ l.read name g s = .ok a := by
  cases s with
  | list vs =>
    simp only [read, bind_eq_ok_iff]
    constructor
    · rintro ⟨⟨b, rest⟩, hplaced, hrest⟩
      cases rest with
      | nil => exact ⟨_, hplaced, hrest⟩
      | cons v rest => cases hrest
    · rintro ⟨⟨b, rest⟩, hplaced, hrest⟩
      cases rest with
      | nil => exact ⟨_, hplaced, hrest⟩
      | cons v rest => cases hrest
  | _ => exact Iff.rfl

section

variable [Source ν] {ms : List (String × ν)}

theorem named_seq {f : Layout ρ (α → β)} {x : Layout ρ α} {b : β} :
    (f <*> x).named ms = .ok b ↔
      ∃ g a, f.named ms = .ok g ∧ x.named ms = .ok a ∧ b = g a := by
  change (do return (← f.named ms) (← x.named ms)) = .ok b ↔ _
  simp only [bind_eq_ok_iff]
  constructor
  · rintro ⟨g, hg, a, ha, ⟨⟩⟩
    exact ⟨g, a, hg, ha, rfl⟩
  · rintro ⟨g, a, hg, ha, rfl⟩
    exact ⟨g, hg, a, ha, rfl⟩

theorem named_map {g : α → β} {x : Layout ρ α} {b : β} :
    (g <$> x).named ms = .ok b ↔ ∃ a, x.named ms = .ok a ∧ b = g a := by
  change (pure g <*> x : Layout ρ β).named ms = .ok b ↔ _
  rw [named_seq]
  constructor
  · rintro ⟨_, a, ⟨⟩, ha, rfl⟩
    exact ⟨a, ha, rfl⟩
  · rintro ⟨a, ha, rfl⟩
    exact ⟨g, a, rfl, ha, rfl⟩

theorem named_field {name : String} {get : ρ → α} {c : Codec α} {a : α} :
    (field name get c).named ms = .ok a ↔ ∃ v, ms.lookup name = some v ∧ c.decode v = .ok a := by
  dsimp only [field]
  cases ms.lookup name with
  | none => exact ⟨nofun, nofun⟩
  | some v => simp

theorem named_optional {name : String} {get : ρ → α} {c : Codec α} {default a : α}
    {omitted : α → Bool} : (optional name get c default omitted).named ms = .ok a ↔
      match ms.lookup name with
      | some v => c.decode v = .ok a
      | none => a = default := by
  dsimp only [optional]
  cases ms.lookup name with
  | none => exact ⟨fun h => (Except.ok.inj h).symm, fun h => congrArg _ h.symm⟩
  | some v => exact Iff.rfl

end

inductive Reads (l : Layout ρ α) : Json → α → Prop
  | named : l.named (Text.sortKeys ms) = .ok a → Reads l (.obj ms) a
  | placed : l.placed short vs = .ok (a, rest) → Reads l (.arr vs) a

variable {v : Json}

theorem reads_of_decode {l : Layout α α} {name : String} {a : α}
    (h : (l.codec name).decode v = .ok a) : l.Reads v a := by
  obtain ⟨shape, hshape, hread⟩ := bind_eq_ok_iff.mp h
  cases hshape
  cases v with
  | obj ms =>
    obtain ⟨_, -, hnamed⟩ := bind_eq_ok_iff.mp hread
    exact .named hnamed
  | arr vs =>
    obtain ⟨⟨b, rest⟩, hplaced, hrest⟩ := bind_eq_ok_iff.mp hread
    cases rest with
    | nil =>
      cases hrest
      exact .placed hplaced
    | cons w rest => cases hrest
  | _ => cases hread

variable {f : Layout ρ (α → β)} {x : Layout ρ α} {b : β}

theorem Reads.of_seq (h : (f <*> x).Reads v b) : ∃ g a, f.Reads v g ∧ b = g a := by
  cases h with
  | named h =>
    obtain ⟨g, a, hg, -, rfl⟩ := named_seq.mp h
    exact ⟨g, a, .named hg, rfl⟩
  | placed h =>
    obtain ⟨⟨g, vs⟩, hg, hx⟩ := bind_eq_ok_iff.mp h
    obtain ⟨⟨a, vs⟩, -, ha⟩ := bind_eq_ok_iff.mp hx
    cases ha
    exact ⟨g, a, .placed hg, rfl⟩

theorem Reads.of_field {name : String} {get : ρ → α} {c : Codec α} {g : α → β}
    (h : (g <$> field name get c).Reads v b) :
    ∃ w a, v.first? name = some w ∧ c.decode w = .ok a ∧ b = g a := by
  cases h with
  | named h =>
    obtain ⟨a, hfield, rfl⟩ := named_map.mp h
    obtain ⟨w, hw, ha⟩ := named_field.mp hfield
    exact ⟨w, a, hw, ha, rfl⟩
  | @placed short vs _ rest h =>
    obtain ⟨⟨_, vs'⟩, hg, hfield⟩ := bind_eq_ok_iff.mp h
    obtain ⟨⟨a, _⟩, ha, hb⟩ := bind_eq_ok_iff.mp hfield
    cases hg
    cases hb
    cases vs with
    | nil => cases ha
    | cons w vs =>
      obtain ⟨a, hdecode, hrest⟩ := bind_eq_ok_iff.mp ha
      cases hrest
      exact ⟨w, a, rfl, hdecode, rfl⟩

inductive Builds (ν : Type) [Source ν] (l : Layout ρ α) (a : α) : Prop
  | named (ms : List (String × ν)) : l.named ms = .ok a → Builds ν l a
  | placed (vs : List ν) : l.placed short vs = .ok (a, rest) → Builds ν l a

section

variable {ν : Type} [Source ν]

theorem builds_of_decode {l : Layout α α} {name : String} {v : ν} {a : α}
    (h : (l.codec name).decode v = .ok a) : l.Builds ν a := by
  obtain ⟨shape, -, hread⟩ := bind_eq_ok_iff.mp h
  cases shape with
  | record ms =>
    obtain ⟨_, -, hnamed⟩ := bind_eq_ok_iff.mp hread
    exact .named ms hnamed
  | list vs =>
    obtain ⟨⟨b, rest⟩, hplaced, hrest⟩ := bind_eq_ok_iff.mp hread
    cases rest with
    | nil =>
      cases hrest
      exact .placed vs hplaced
    | cons w rest => cases hrest
  | _ => cases hread

theorem Builds.of_seq (h : (f <*> x).Builds ν b) :
    ∃ g a, f.Builds ν g ∧ x.Builds ν a ∧ b = g a := by
  cases h with
  | named ms h =>
    obtain ⟨g, a, hg, ha, rfl⟩ := named_seq.mp h
    exact ⟨g, a, .named ms hg, .named ms ha, rfl⟩
  | placed vs h =>
    obtain ⟨⟨g, vs'⟩, hg, hx⟩ := bind_eq_ok_iff.mp h
    obtain ⟨⟨a, _⟩, ha, hb⟩ := bind_eq_ok_iff.mp hx
    cases hb
    exact ⟨g, a, .placed vs hg, .placed vs' ha, rfl⟩

theorem Builds.of_map {g : α → β} (h : (g <$> x).Builds ν b) : ∃ a, x.Builds ν a ∧ b = g a := by
  obtain ⟨g', a, hg, ha, rfl⟩ := Builds.of_seq (f := pure g) h
  refine ⟨a, ha, ?_⟩
  cases hg with
  | named ms hg =>
    cases hg
    rfl
  | placed vs hg =>
    cases hg
    rfl

theorem Builds.of_optional {name : String} {get : ρ → α} {c : Codec α} {default a : α}
    {omitted : α → Bool} (h : (optional name get c default omitted).Builds ν a) :
    a = default ∨ ∃ v : ν, c.decode v = .ok a := by
  cases h with
  | named ms h =>
    rw [named_optional] at h
    split at h
    next v _ => exact .inr ⟨v, h⟩
    next => exact .inl h
  | placed vs h =>
    cases vs with
    | nil =>
      cases h
      exact .inl rfl
    | cons v vs =>
      obtain ⟨a', ha, h⟩ := bind_eq_ok_iff.mp h
      cases h
      exact .inr ⟨v, ha⟩

end

end Layout

theorem eq_str_of_decode {v : Json} {s : String} (h : Codec.text.decode v = .ok s) :
    v = .str s := by
  cases v with
  | str t =>
    cases h
    rfl
  | _ => cases h

namespace Part

theorem shape_eq_ok_iff {p : Part} {s : Shape Part} :
    Source.shape p = .ok s ↔ p.shape? = some s := by
  unfold Source.shape
  cases hshape : p.shape? with
  | none => simp [instSourcePart, hshape]
  | some t => simp [instSourcePart, hshape]

theorem names_of_mapM {depth : Nat} {members : List (List TextPart × Document)}
    {ms : List (String × Part)}
    (h : members.mapM (fun m => (textOf? m.1).map fun k => (k, Part.mk depth m.2)) = some ms) :
    members.filterMap (textOf? ·.1) = ms.map Prod.fst := by
  induction members generalizing ms with
  | nil =>
    cases h
    rfl
  | cons m members ih =>
    rw [List.mapM_cons] at h
    obtain ⟨n, hn, h⟩ := Option.bind_eq_some_iff.mp h
    obtain ⟨rest, hrest, ⟨⟩⟩ := Option.bind_eq_some_iff.mp h
    obtain ⟨k, hk, rfl⟩ := Option.map_eq_some_iff.mp hn
    simp [hk, ih hrest]

theorem members_of_shape {d : Document} {ms : List (String × Part)}
    (h : Source.shape d.whole = .ok (.record ms)) :
    ∃ members, d = .record members ∧ members.filterMap (textOf? ·.1) = ms.map Prod.fst := by
  have hshape := shape_eq_ok_iff.mp h
  cases d with
  | record members =>
    obtain ⟨_, hms, ⟨⟩⟩ := Option.map_eq_some_iff.mp hshape
    exact ⟨members, rfl, names_of_mapM hms⟩
  | number l =>
    obtain ⟨n, -, hn⟩ := Option.map_eq_some_iff.mp hshape
    cases n <;> cases hn
  | text t =>
    obtain ⟨_, -, ⟨⟩⟩ := Option.map_eq_some_iff.mp hshape
  | _ => cases hshape

end Part
end Overlay.Json
