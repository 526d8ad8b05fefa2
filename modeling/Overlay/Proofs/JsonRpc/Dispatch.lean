import Overlay.JsonRpc.Dispatch
import Overlay.Proofs.Json.Layout
import Overlay.Proofs.Text.Numeral

namespace Overlay.JsonRpc

def Methods.registered (rs : List (String × Handler σ)) : Methods σ :=
  rs.foldl (fun ms r => ms.register r.1 r.2) {}

/-- The handler of the last registration under a name. -/
def LastUnder (name : String) (h : Handler σ) (rs : List (String × Handler σ)) : Prop :=
  ∃ before after, rs = before ++ (name, h) :: after ∧ ∀ r ∈ after, r.1 ≠ name

namespace Methods

theorem entries_foldl_register (rs : List (String × Handler σ)) (ms : Methods σ) :
    (rs.foldl (fun ms r => ms.register r.1 r.2) ms).entries =
      rs.foldl (fun entries r => Text.insertKey r.1 r.2 entries) ms.entries := by
  induction rs generalizing ms with
  | nil => rfl
  | cons r rs ih => exact ih _

theorem find?_registered {rs : List (String × Handler σ)} {name : String} {h : Handler σ} :
    (registered rs).find? name = some h ↔ LastUnder name h rs := by
  rw [find?, registered, entries_foldl_register, ← Text.sortKeys, Text.lookup_sortKeys,
    List.lookup_eq_some_iff]
  constructor
  · rintro ⟨after, before, hsplit, hafter⟩
    refine ⟨before.reverse, after.reverse, ?_, ?_⟩
    · rw [← List.reverse_reverse rs, hsplit, List.reverse_append, List.reverse_cons,
        List.append_assoc]
      rfl
    · intro r hr heq
      simpa [heq] using hafter r (List.mem_reverse.mp hr)
  · rintro ⟨before, after, rfl, hafter⟩
    refine ⟨after.reverse, before.reverse, by simp, ?_⟩
    intro r hr
    exact bne_iff_ne.mpr (hafter r (List.mem_reverse.mp hr)).symm

end Methods

def Declares (length : Option String) (body part : ByteArray) : Prop :=
  ∃ text n, length = some text ∧
    Text.IsDecimal UInt64.size (Text.trimBlank text.toList) n ∧ n ≤ body.size ∧
    part = body.extract 0 n

def Carries (length : Option String) (body : ByteArray) (v : Json) : Prop :=
  ∃ part, Declares length body part ∧ Json.ofBytes? part = some v

section

variable {length : Option String} {body part : ByteArray}

theorem declaredPart_eq_ok_iff :
    Methods.declaredPart length body = .ok part ↔ Declares length body part := by
  constructor
  · intro h
    unfold Methods.declaredPart at h
    split at h
    next => cases h
    next text =>
      split at h
      next => cases h
      next n hn =>
        split at h
        next => cases h
        next hsize =>
          cases h
          exact ⟨text, n, rfl, Text.numeral_eq_ok_iff.mp hn, Nat.not_lt.mp hsize, rfl⟩
  · rintro ⟨text, n, rfl, hn, hsize, rfl⟩
    simp only [Methods.declaredPart, Text.numeral_eq_ok_iff.mpr hn]
    exact if_neg (Nat.not_lt.mpr hsize)

theorem declaredPart_error {r : Refusal} (h : Methods.declaredPart length body = .error r) :
    r.error.code = -32700 := by
  unfold Methods.declaredPart at h
  split at h
  · cases h
    rfl
  · split at h
    · cases h
      rfl
    · split at h <;> cases h
      rfl

theorem Carries.unique {v w : Json} (hv : Carries length body v) (hw : Carries length body w) :
    v = w := by
  obtain ⟨part, hpart, hv⟩ := hv
  obtain ⟨part', hpart', hw⟩ := hw
  have hsame : part = part' := Except.ok.inj
    ((declaredPart_eq_ok_iff.mpr hpart).symm.trans (declaredPart_eq_ok_iff.mpr hpart'))
  rw [hsame, hw] at hv
  exact (Option.some.inj hv).symm

end

structure Requests (v : Json) (e : Envelope) : Prop where
  object : ∃ ms, v = .obj ms
  version : ∀ w, v.member? "jsonrpc" = some w → w = .str "2.0"
  method : v.member? "method" = some (.str e.method)
  params : (v.member? "params" = none ∨ v.member? "params" = some .null) ∧ e.params = .obj [] ∨
    v.member? "params" = some e.params ∧ ((∃ ms, e.params = .obj ms) ∨ ∃ vs, e.params = .arr vs)
  id : e.id = (v.member? "id").getD .null

namespace Envelope

variable {v : Json}

theorem checkVersion_eq_ok_iff :
    checkVersion v = .ok () ↔ ∀ w, v.member? "jsonrpc" = some w → w = .str "2.0" := by
  unfold checkVersion
  cases v.member? "jsonrpc" with
  | none => simp
  | some w =>
    cases w with
    | str s => by_cases hs : s = "2.0" <;> simp [JsonRpc.version, hs]
    | _ => simp

theorem methodOf_eq_ok_iff {name : String} :
    methodOf v = .ok name ↔ v.member? "method" = some (.str name) := by
  unfold methodOf
  cases v.member? "method" with
  | none => simp
  | some w => cases w <;> simp

theorem paramsOf_eq_ok_iff {params : Json} : paramsOf v = .ok params ↔
    (v.member? "params" = none ∨ v.member? "params" = some .null) ∧ params = .obj [] ∨
    v.member? "params" = some params ∧ ((∃ ms, params = .obj ms) ∨ ∃ vs, params = .arr vs) := by
  unfold paramsOf
  cases hmember : v.member? "params" with
  | none => simp [eq_comm]
  | some w => cases w <;> simp <;> grind

theorem ofJson_eq_ok_iff {e : Envelope} : ofJson v = .ok e ↔ Requests v e := by
  constructor
  · intro h
    unfold ofJson at h
    split at h
    next ms =>
      obtain ⟨_, hversion, h⟩ := Json.bind_eq_ok_iff.mp h
      obtain ⟨method, hmethod, h⟩ := Json.bind_eq_ok_iff.mp h
      obtain ⟨params, hparams, h⟩ := Json.bind_eq_ok_iff.mp h
      cases h
      exact ⟨⟨ms, rfl⟩, checkVersion_eq_ok_iff.mp hversion, methodOf_eq_ok_iff.mp hmethod,
        paramsOf_eq_ok_iff.mp hparams, rfl⟩
    next => cases h
  · rintro ⟨⟨ms, rfl⟩, hversion, hmethod, hparams, hid⟩
    obtain ⟨id, method, params⟩ := e
    cases hid
    rw [ofJson, checkVersion_eq_ok_iff.mpr hversion, methodOf_eq_ok_iff.mpr hmethod,
      paramsOf_eq_ok_iff.mpr hparams]
    rfl

theorem ofJson_error {r : Refusal} (h : ofJson v = .error r) : r.error.code = -32600 := by
  unfold ofJson at h
  split at h
  next =>
    obtain h | ⟨_, -, h⟩ := Json.bind_eq_error_iff.mp h
    · rw [checkVersion] at h
      split at h
      next => cases h
      next => split at h <;> cases h; rfl
      next => cases h; rfl
    obtain h | ⟨_, -, h⟩ := Json.bind_eq_error_iff.mp h
    · rw [methodOf] at h
      split at h <;> cases h <;> rfl
    obtain h | ⟨_, -, h⟩ := Json.bind_eq_error_iff.mp h
    · rw [paramsOf] at h
      split at h <;> cases h
      rfl
    · cases h
  next =>
    cases h
    rfl

end Envelope

def Completion.outcome (method : String) : Completion → Except ErrorObject Json
  | .result v => .ok v
  | .failure e => .error e
  | .aborted => .error
    { code := -32603, message := s!"Handler for '{method}' failed unexpectedly" }

namespace Methods

variable {ms : Methods σ} {v : Json} {e : Envelope}

theorem respond_eq (e : Envelope) (c : Completion) :
    respond e c = ⟨version, e.id, c.outcome e.method⟩ := by
  cases c <;> rfl

theorem answer_of_found {h : Handler σ} (he : Envelope.ofJson v = .ok e)
    (hfound : ms.find? e.method = some h) (s : σ) : (ms.answer v).run s =
      (⟨version, e.id, ((h e.id e.params).run s).1.outcome e.method⟩,
        ((h e.id e.params).run s).2) := by
  rw [← respond_eq, answer, he]
  simp only [hfound]
  rfl

theorem answer_of_unknown (he : Envelope.ofJson v = .ok e) (hfound : ms.find? e.method = none)
    (s : σ) : (ms.answer v).run s =
      (.error e.id { code := -32601, message := "Method not found", data := some (.str e.method) },
        s) := by
  rw [answer, he]
  simp only [hfound]
  rfl

theorem answer_of_refused {r : Refusal} (hr : Envelope.ofJson v = .error r) (s : σ) :
    (ms.answer v).run s = (.error ((v.member? "id").getD .null) r.error, s) := by
  rw [answer, hr]
  rfl

theorem answerSized_of_carries {length : Option String} {body : ByteArray}
    (h : Carries length body v) : ms.answerSized length body = ms.answer v := by
  obtain ⟨part, hpart, hv⟩ := h
  simp only [answerSized, declaredPart_eq_ok_iff.mpr hpart, answerBytes, hv]

theorem answerSized_of_not_carries {length : Option String} {body : ByteArray}
    (h : ¬∃ v, Carries length body v) : ∃ err, err.code = -32700 ∧
      ∀ s, (ms.answerSized length body).run s = (.error .null err, s) := by
  cases hpart : declaredPart length body with
  | error r =>
    refine ⟨r.error, declaredPart_error hpart, fun s => ?_⟩
    simp only [answerSized, hpart]
    rfl
  | ok part =>
    have hv : Json.ofBytes? part = none := by
      rw [Option.eq_none_iff_forall_ne_some]
      intro v hv
      exact h ⟨v, part, declaredPart_eq_ok_iff.mp hpart, hv⟩
    refine ⟨Refusal.notJson.error, rfl, fun s => ?_⟩
    simp only [answerSized, hpart, answerBytes, hv]
    rfl

end Methods

/-- A message runs the handler that was registered last for it, once and with its id and parameters,
and is answered with what becomes of it. Any other message runs none and is refused: for its text,
without an id, or else for the shape of the request, or else for the name of the method. -/
theorem answerSized_once (rs : List (String × Handler σ)) (length : Option String)
    (body : ByteArray) :
    let answer := (Methods.registered rs).answerSized length body
    (∀ v e h, Carries length body v → Requests v e → LastUnder e.method h rs → ∀ s,
      answer.run s = (⟨"2.0", e.id, ((h e.id e.params).run s).1.outcome e.method⟩,
        ((h e.id e.params).run s).2)) ∧
    ((¬∃ v e h, Carries length body v ∧ Requests v e ∧ LastUnder e.method h rs) →
      ∃ id err, (∀ s, answer.run s = (.error id err, s)) ∧
        ((¬∃ v, Carries length body v) → id = .null ∧ err.code = -32700) ∧
        ∀ v, Carries length body v → id = (v.member? "id").getD .null ∧
          ((¬∃ e, Requests v e) → err.code = -32600) ∧
          ∀ e, Requests v e → err.code = -32601 ∧ err.data = some (.str e.method)) := by
  intro answer
  constructor
  · intro v e h hv he hlast s
    rw [show answer = _ from Methods.answerSized_of_carries hv]
    exact Methods.answer_of_found (Envelope.ofJson_eq_ok_iff.mpr he)
      (Methods.find?_registered.mpr hlast) s
  intro hnone
  by_cases hcarries : ∃ v, Carries length body v
  case neg =>
    obtain ⟨err, hcode, hanswer⟩ := Methods.answerSized_of_not_carries hcarries
    exact ⟨.null, err, hanswer, fun _ => ⟨rfl, hcode⟩, fun v hv => absurd ⟨v, hv⟩ hcarries⟩
  case pos =>
    obtain ⟨v, hv⟩ := hcarries
    have hrun : answer = (Methods.registered rs).answer v := Methods.answerSized_of_carries hv
    rw [hrun]
    cases he : Envelope.ofJson v with
    | error r =>
      refine ⟨_, _, Methods.answer_of_refused he, fun h => absurd ⟨v, hv⟩ h, fun w hw => ?_⟩
      obtain rfl := hv.unique hw
      refine ⟨rfl, fun _ => Envelope.ofJson_error he, fun e h => ?_⟩
      cases he.symm.trans (Envelope.ofJson_eq_ok_iff.mpr h)
    | ok e =>
      have hrequest := Envelope.ofJson_eq_ok_iff.mp he
      have hunknown : (Methods.registered rs).find? e.method = none := by
        rw [Option.eq_none_iff_forall_ne_some]
        intro h hfound
        exact hnone ⟨v, e, h, hv, hrequest, Methods.find?_registered.mp hfound⟩
      refine ⟨_, _, Methods.answer_of_unknown he hunknown, fun h => absurd ⟨v, hv⟩ h,
        fun w hw => ?_⟩
      obtain rfl := hv.unique hw
      refine ⟨hrequest.id, fun h => absurd ⟨e, hrequest⟩ h, fun e' h => ?_⟩
      obtain rfl : e = e' := Except.ok.inj (he.symm.trans (Envelope.ofJson_eq_ok_iff.mpr h))
      exact ⟨rfl, rfl⟩

def echoing : List (String × Handler Nat) :=
  [("echo", fun _ _ => return .aborted), ("ping", fun _ _ => return .result .null),
    ("echo", fun _ params => do modify (· + 1); return .result params)]

def echoText : String := "\x7b\"id\":7,\"method\":\"echo\"\x7d"

def echoRequest : Json := .obj [("id", .int 7), ("method", .str "echo")]

theorem carries_echo :
    Carries (some " +24 ") (echoText.toUTF8 ++ "!".toUTF8) echoRequest := by
  have hdecimal : Text.IsDecimal UInt64.size (Text.trimBlank " +24 ".toList) 24 :=
    ⟨['2', '4'], .inr (by decide), nofun, by simp [Char.isDigit], by decide, by decide⟩
  have hscan : Json.Token.scan? echoText.toList = some
      [.beginRecord, .text [.char 'i', .char 'd'], .colon, .number ⟨false, [7], none, none⟩,
        .comma, .text ("method".toList.map .char), .colon, .text ("echo".toList.map .char),
        .endRecord] := by decide +kernel
  refine ⟨echoText.toUTF8, ⟨_, 24, rfl, hdecimal, by decide, ?_⟩, ?_⟩
  · exact (ByteArray.extract_append_eq_left (by decide)).symm
  · rw [Json.ofBytes?, Json.Document.ofBytes?_toUTF8, Json.Document.ofText?, hscan]
    rfl

theorem answerSized_once_echo :
    let h : Handler Nat := fun _ params => do modify (· + 1); return .result params
    let ms := Methods.registered echoing
    let body := echoText.toUTF8 ++ "!".toUTF8
    Carries (some " +24 ") body echoRequest ∧ Requests echoRequest ⟨.int 7, "echo", .obj []⟩ ∧
    LastUnder "echo" h echoing ∧
    (ms.answerSized (some " +24 ") body).run 0 = (⟨"2.0", .int 7, .ok (.obj [])⟩, 1) ∧
    ∃ err, (ms.answerSized none body).run 0 = (.error .null err, 0) ∧ err.code = -32700 := by
  intro h ms body
  have hrequests : Requests echoRequest ⟨.int 7, "echo", .obj []⟩ :=
    Envelope.ofJson_eq_ok_iff.mp rfl
  have hlast : LastUnder "echo" h echoing := ⟨echoing.take 2, [], rfl, nofun⟩
  have hnone : ¬∃ v, Carries none body v := by
    rintro ⟨_, _, ⟨_, _, ⟨⟩, _⟩, _⟩
  refine ⟨carries_echo, hrequests, hlast, ?_, ?_⟩
  · exact (answerSized_once echoing (some " +24 ") body).1 _ _ h carries_echo hrequests hlast 0
  · obtain ⟨id, err, hanswer, hrefused, -⟩ := (answerSized_once echoing none body).2
      fun ⟨v, _, _, hv, _⟩ => hnone ⟨v, hv⟩
    obtain ⟨rfl, hcode⟩ := hrefused hnone
    exact ⟨err, hanswer 0, hcode⟩

end Overlay.JsonRpc
