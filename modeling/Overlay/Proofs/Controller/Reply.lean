import Overlay.Controller.HttpClient
import Overlay.Proofs.JsonRpc.Response

namespace Overlay.Controller

open JsonRpc

inductive Brings (c : Call) : Delivery → c.Reply → Prop
  | answered : ¬(status < 200 ∨ 300 ≤ status) → Json.Document.ofBytes? body = some d →
      Response.codec.decode d.whole = .ok r → r.outcome = .ok v → c.readResult v = .ok reply →
      Brings c (.answered status body) reply

theorem readResponse?_eq_some_iff {body : ByteArray} {r : Response} :
    readResponse? body = some r ↔
      ∃ d, Json.Document.ofBytes? body = some d ∧ Response.codec.decode d.whole = .ok r := by
  unfold readResponse?
  rw [Option.bind_eq_some_iff]
  refine exists_congr fun d => and_congr_right fun _ => ?_
  cases Response.codec.decode d.whole with
  | error e => exact ⟨nofun, nofun⟩
  | ok r' =>
    constructor
    · rintro ⟨⟩
      rfl
    · rintro ⟨⟩
      rfl

variable {c : Call} {reply : c.Reply}

theorem readDelivery_eq_ok_iff {url : Net.Url} {delivery : Delivery} :
    readDelivery c url delivery = .ok reply ↔ Brings c delivery reply := by
  constructor
  · intro h
    cases delivery with
    | dropped => cases h
    | answered status body =>
      rw [readDelivery] at h
      split at h
      · cases h
      next hstatus =>
      cases hr : readResponse? body with
      | none => simp [hr] at h
      | some r =>
        obtain ⟨d, hd, hdecode⟩ := readResponse?_eq_some_iff.mp hr
        cases hv : r.outcome with
        | error e => simp [hr, hv] at h
        | ok v =>
          simp only [hr, hv, Json.mapError_eq_ok_iff] at h
          exact .answered hstatus hd hdecode hv h
  · rintro ⟨hstatus, hd, hdecode, hv, hreply⟩
    have hr := readResponse?_eq_some_iff.mpr ⟨_, hd, hdecode⟩
    simp only [readDelivery, if_neg hstatus, hr, hv, Json.mapError_eq_ok_iff, hreply]

theorem call_eq_ok_iff {base : String} {post : Transport τ} {client : HttpClient τ} :
    (HttpClient.call base post c client).1 = .ok reply ↔
      (∃ url, Net.Url.parse? (base ++ c.endpoint) = some url ∧ url.takesRequests) ∧
        Brings c (post ⟨base ++ c.endpoint, c.request client.nextId⟩ client.transport).1
          reply := by
  unfold HttpClient.call
  dsimp only
  cases hurl : Net.Url.parse? (base ++ c.endpoint) with
  | none => simp
  | some url =>
    by_cases hsends : url.takesRequests
    · simp only [hsends, if_true, Option.some.injEq, exists_eq_left', true_and]
      exact readDelivery_eq_ok_iff
    · simp [hsends]

theorem first_of_brings {status : UInt16} {body : ByteArray}
    (h : Brings c (.answered status body) reply) :
    ∃ members, Json.Document.ofBytes? body = some (.record members) ∧
      (members.filterMap (Json.textOf? ·.1)).find? Response.namesOutcome = some "result" := by
  cases h with
  | answered _ hd hdecode hv _ =>
    obtain ⟨members, rfl, hfirst⟩ := Response.outcome_of_document hdecode
    rw [hv] at hfirst
    exact ⟨members, hd, hfirst⟩

/-- Whatever else a response holds, the outcome that comes first is what becomes of the call. -/
theorem reply_of_first_outcome {ν : Type} [Json.Source ν] (source : ν) (value : Json)
    (d : Json.Document) (r : Response) (base : String) (post : Transport τ) (c : Call)
    (client : HttpClient τ) (reply : c.Reply) (status : UInt16) (body : ByteArray) :
    (Response.codec.decode source = .ok r ↔
      ∃ ms, Json.Source.shape source = .ok (.record ms) ∧ Response.Reading ms r) ∧
    (Response.codec.decode value = .ok r →
      r.isError = (value.member? "error").isSome ∧
        (r.isError = false → (value.member? "result").isSome)) ∧
    (Response.codec.decode d.whole = .ok r → ∃ members, d = .record members ∧
      (members.filterMap (Json.textOf? ·.1)).find? Response.namesOutcome =
        some (Response.outcomeName r.outcome)) ∧
    ((HttpClient.call base post c client).1 = .ok reply ↔
      (∃ url, Net.Url.parse? (base ++ c.endpoint) = some url ∧ url.takesRequests) ∧
        Brings c (post ⟨base ++ c.endpoint, c.request client.nextId⟩ client.transport).1
          reply) ∧
    ((HttpClient.call base post c client).1 = .ok reply →
      (post ⟨base ++ c.endpoint, c.request client.nextId⟩ client.transport).1 =
        .answered status body →
      ∃ members, Json.Document.ofBytes? body = some (.record members) ∧
        (members.filterMap (Json.textOf? ·.1)).find? Response.namesOutcome = some "result") := by
  refine ⟨Response.decode_eq_ok_iff, Response.outcome_of_value, Response.outcome_of_document,
    call_eq_ok_iff, ?_⟩
  intro hreply hdelivery
  have hbrings := (call_eq_ok_iff.mp hreply).2
  rw [hdelivery] at hbrings
  exact first_of_brings hbrings

def bothText : String :=
  "\x7b\"jsonrpc\":\"2.0\",\"result\":null,\"error\":\x7b\"code\":1,\"message\":\"refused\"\x7d\x7d"

def Transport.stating (text : String) : Transport Unit := fun _ => return .answered 200 text.toUTF8

theorem eq_ok_of_isOk {x : Except ε Unit} (h : x.isOk = true) : x = .ok () := by
  cases x with
  | error e => cases h
  | ok a => rfl

theorem reply_of_first_outcome_both :
    (HttpClient.call "http://ovx" (.stating bothText) (.startNetwork ⟨1⟩) ⟨1, ()⟩).1 = .ok () ∧
      ∃ members, Json.Document.ofBytes? bothText.toUTF8 = some (.record members) ∧
        (members.filterMap (Json.textOf? ·.1)).find? Response.namesOutcome = some "result" := by
  have hreply : (HttpClient.call "http://ovx" (.stating bothText) (.startNetwork ⟨1⟩)
      ⟨1, ()⟩).1 = .ok () := eq_ok_of_isOk (by decide +kernel)
  exact ⟨hreply, (reply_of_first_outcome (ν := Json) .null .null .null (.result .null .null) _ _
    _ _ _ 200 bothText.toUTF8).2.2.2.2 hreply rfl⟩

/-- The error is well-formed, and the call has its reply nevertheless. -/
theorem call_of_both :
    (HttpClient.call "http://ovx" (.stating bothText) (.startNetwork ⟨1⟩) ⟨1, ()⟩).1.isOk = true ∧
      ∃ d ms v, Json.Document.ofBytes? bothText.toUTF8 = some d ∧
        Json.Source.shape d.whole = .ok (.record ms) ∧ (ms.lookup "result").isSome ∧
        ms.lookup "error" = some v ∧
        ErrorObject.codec.decode v = .ok { code := 1, message := "refused" } := by
  have hscan : Json.Token.scan? bothText.toList = some
      [.beginRecord, .text ("jsonrpc".toList.map .char), .colon, .text ("2.0".toList.map .char),
        .comma, .text ("result".toList.map .char), .colon, .null, .comma,
        .text ("error".toList.map .char), .colon, .beginRecord, .text ("code".toList.map .char),
        .colon, .number ⟨false, [1], none, none⟩, .comma, .text ("message".toList.map .char),
        .colon, .text ("refused".toList.map .char), .endRecord, .endRecord] := by decide +kernel
  have hread : Json.Document.ofText? bothText = _ :=
    congrArg (Option.bind · Json.Document.ofTokens?) hscan
  exact ⟨by decide +kernel, _, _, _, (Json.Document.ofBytes?_toUTF8 _).trans hread,
    rfl, rfl, rfl, rfl⟩

end Overlay.Controller
