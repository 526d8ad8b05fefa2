import Overlay.Proofs.Planner.Admission

namespace Overlay.Planner

open Controller Json JsonRpc Routing Tenant

def typeRefusal? (type : String) : Option ErrorObject :=
  let name := String.ofList ((Text.trimBlank type.toList).map Char.toLower)
  if name = "bigswitch" ∨ name = "physical" then none
  else if name = "custom" then
    some {
      code := -32602
      message := "unsupported operation: network mode 'custom' is not implemented"
      data := some (.obj [("mode", .str "custom")]) }
  else
    some {
      code := 1
      message := "Unsupported network type"
      data := some (.obj [("type", .str type)]) }

theorem name_of_ofName? {name : String} {mode : Mode} (h : Mode.ofName? name = some mode) :
    name = mode.name := by
  unfold Mode.ofName? at h
  split at h <;> cases h <;> rfl

theorem typeRefusal?_eq_some_iff {type : String} {err : ErrorObject} :
    typeRefusal? type = some err ↔ ∃ fault, modeOf type = .error fault ∧
      fault.toErrorObject = err := by
  unfold typeRefusal? modeOf Mode.parse?
  generalize String.ofList ((Text.trimBlank type.toList).map Char.toLower) = name
  cases hmode : Mode.ofName? name with
  | none =>
    have hne (mode : Mode) : name ≠ mode.name := by
      rintro rfl
      rw [Mode.ofName?_name] at hmode
      cases hmode
    have hbig := hne .bigSwitch
    have hphysical := hne .physical
    have hcustom := hne .custom
    simp only [Mode.name] at hbig hphysical hcustom
    rw [if_neg (by simp [hbig, hphysical]), if_neg hcustom]
    exact ⟨fun h => ⟨_, rfl, Option.some.inj h⟩, by rintro ⟨_, ⟨⟩, rfl⟩; rfl⟩
  | some mode =>
    obtain rfl := name_of_ofName? hmode
    cases mode with
    | bigSwitch => simp [Mode.name]
    | physical => simp [Mode.name]
    | custom =>
      rw [Mode.name, if_neg (by decide), if_pos rfl]
      exact ⟨fun h => ⟨_, rfl, Option.some.inj h⟩, by rintro ⟨_, ⟨⟩, rfl⟩; rfl⟩

/-- A network of a type that is not built is refused without a call. The refusal tells so if the
request and its network are objects, or if the parameters can be read; otherwise it tells what
cannot be read. -/
theorem answer_unbuiltType (k : Controller σ) (s : Session σ) {v : Json} {e : Envelope}
    (he : Envelope.ofJson v = .ok e) (hmethod : e.method = "createNetwork") {type : String}
    (hwritten : writtenType? e.params = some type) {err : ErrorObject}
    (hrefusal : typeRefusal? type = some err) :
    ∃ told, ((methods k).answer v).run s = (.error e.id told, s) ∧
      (typeOf? e.params = some type ∨ (∃ o, Order.codec.decode e.params = .ok o) → told = err) ∧
      (typeOf? e.params = none → ∀ fault, Order.codec.decode e.params = .error fault →
        told = .invalidParams s!"Invalid params: {fault.message}") := by
  obtain ⟨fault, hmode, rfl⟩ := typeRefusal?_eq_some_iff.mp hrefusal
  have hreading := reading e.params
  cases ho : orderOf e.params with
  | error told =>
    rw [ho] at hreading
    refine ⟨told, answer_of_unread k s he hmethod ho, ?_⟩
    cases hreading with
    | mistyped htype hmode' =>
      obtain rfl := Option.some.inj (hwritten.symm.trans (writtenType?_of_typeOf? htype))
      obtain rfl := Except.error.inj (hmode.symm.trans hmode')
      refine ⟨fun _ => rfl, fun hnone => ?_⟩
      cases hnone.symm.trans htype
    | unread htyped hdecode =>
      constructor
      · rintro (htype | ⟨o, hok⟩)
        · obtain ⟨mode, hbuilt⟩ := htyped type htype
          cases hmode.symm.trans hbuilt
        · cases hdecode.symm.trans hok
      · rintro - fault' hdecode'
        rw [Except.error.inj (hdecode.symm.trans hdecode')]
  | ok o =>
    rw [ho] at hreading
    cases hreading with
    | read _ hdecode =>
      -- The type that has been overlooked before is the one of the order.
      obtain rfl := Option.some.inj (hwritten.symm.trans (writtenType?_of_decode hdecode))
      have hcheck : checkOrder o = .error fault := by rw [checkOrder, hmode]; rfl
      refine ⟨_, answer_of_refused k s he hmethod ho hcheck, fun _ => rfl, ?_⟩
      rintro - fault' hdecode'
      cases hdecode.symm.trans hdecode'

def requestWith (params : Json) : Json :=
  .obj [("id", .int 1), ("method", .str "createNetwork"), ("params", params)]

theorem ofJson_requestWith {params : Json}
    (h : (∃ ms, params = .obj ms) ∨ ∃ vs, params = .arr vs) :
    Envelope.ofJson (requestWith params) = .ok ⟨.int 1, "createNetwork", params⟩ := by
  rw [requestWith, Envelope.ofJson]
  simp only [Envelope.checkVersion, Envelope.methodOf, Envelope.paramsOf, Envelope.idOf,
    member?_obj]
  obtain ⟨ms, rfl⟩ | ⟨vs, rfl⟩ := h <;> rfl

theorem answer_unbuiltType_object :
    let params : Json := .obj [("network", .obj [("type", .str " Mesh"), ("subnet", .int 0)])]
    let refusal : ErrorObject :=
      ⟨1, "Unsupported network type", some (.obj [("type", .str " Mesh")])⟩
    Envelope.ofJson (requestWith params) = .ok ⟨.int 1, "createNetwork", params⟩ ∧
    writtenType? params = some " Mesh" ∧ typeRefusal? " Mesh" = some refusal ∧
    ((methods (counting diamond none)).answer (requestWith params)).run .used =
      (.error (.int 1) refusal, .used) := by
  intro params refusal
  have hjson := ofJson_requestWith (.inl ⟨_, rfl⟩ : (∃ ms, params = .obj ms) ∨ _)
  have htype : typeOf? params = some " Mesh" := rfl
  have hwritten := writtenType?_of_typeOf? htype
  have hrefusal : typeRefusal? " Mesh" = some refusal := rfl
  refine ⟨hjson, hwritten, hrefusal, ?_⟩
  obtain ⟨told, hanswer, htold, -⟩ :=
    answer_unbuiltType (counting diamond none) .used hjson rfl hwritten hrefusal
  rw [hanswer, htold (.inl htype)]

/-- In lists of fields the same type is not found, because the other fields are missing. -/
theorem answer_unbuiltType_list :
    let params : Json := .arr [.arr [.str "mesh"]]
    Envelope.ofJson (requestWith params) = .ok ⟨.int 1, "createNetwork", params⟩ ∧
    writtenType? params = some "mesh" ∧ (typeRefusal? "mesh").map (·.code) = some 1 ∧
    ∃ told, ((methods (counting diamond none)).answer (requestWith params)).run .used =
      (.error (.int 1) told, .used) ∧ told.code = -32602 ∧ told.data = none := by
  intro params
  have hjson := ofJson_requestWith (.inr ⟨_, rfl⟩ : (∃ ms, params = .obj ms) ∨ _)
  exact ⟨hjson, rfl, rfl, _, answer_of_unread (counting diamond none) .used hjson rfl rfl, rfl, rfl⟩

end Overlay.Planner
