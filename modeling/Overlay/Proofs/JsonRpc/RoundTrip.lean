import Overlay.Proofs.Json.Forms
import Overlay.Proofs.JsonRpc.Response

namespace Overlay.JsonRpc

open Json Json.Layout

namespace ErrorObject

def presentData : Option Json → Option Json
  | some .null => none
  | data => data

/-- What remains of an error object once it is written and read. -/
def settled (e : ErrorObject) : ErrorObject := { e with data := presentData e.data }

theorem settled_eq_self_iff {e : ErrorObject} : e.settled = e ↔ e.data ≠ some .null := by
  obtain ⟨code, message, data⟩ := e
  match data with
  | none => exact iff_of_true rfl nofun
  | some .null => exact iff_of_false nofun fun h => h rfl
  | some (.bool _) | some (.int _) | some (.double _) | some (.str _) | some (.arr _)
  | some (.obj _) => exact iff_of_true rfl nofun

def DataForm (data : Option Json) (v : Json) : Prop := v = data.getD .null

def slots (e : ErrorObject) : List Slot :=
  [.field "code" (· = .int e.code.toInt), .field "message" (· = .str e.message),
    .optional "data" (DataForm e.data) (e.data = none)]

theorem decode_maybe {data : Option Json} {v : Json} (h : DataForm data v) :
    Codec.maybe.decode v = .ok (presentData data) := by
  subst h
  cases data with
  | none => rfl
  | some v => cases v <;> rfl

theorem describes_layout : layout.Describes slots settled :=
  (((describes_field faithful_signedWord).map ErrorObject.mk).seq
    (describes_field faithful_text)).seq
    (describes_settling (fun _ => rfl) decode_maybe rfl fun _ => Option.isNone_iff_eq_none.mp)

theorem decode_encode (e : ErrorObject) : codec.decode (codec.encode e) = .ok e.settled :=
  describes_layout.decode "RpcError" (describes_layout.encode "RpcError" (by simp [slots]))

theorem settled_of_decode [Source ν] {v : ν} {e : ErrorObject} (h : codec.decode v = .ok e) :
    e.settled = e := by
  obtain ⟨_, data, hparts, hdata, rfl⟩ := (builds_of_decode h).of_seq
  obtain ⟨_, message, hcode, -, rfl⟩ := hparts.of_seq
  obtain ⟨code, -, rfl⟩ := hcode.of_map
  refine settled_eq_self_iff.mpr ?_
  rcases hdata.of_optional with rfl | ⟨w, hw⟩
  · exact nofun
  · obtain ⟨a, -, ha⟩ := bind_eq_ok_iff.mp hw
    cases a <;> cases ha <;> exact nofun

end ErrorObject

namespace Response

def settled (r : Response) : Response :=
  { r with outcome := r.outcome.mapError ErrorObject.settled }

def outcomeValue : Except ErrorObject Json → Json
  | .ok v => v
  | .error e => ErrorObject.codec.encode e

theorem encode_eq (r : Response) :
    codec.encode r = .obj [("jsonrpc", .str r.jsonrpc), ("id", r.id),
      (outcomeName r.outcome, outcomeValue r.outcome)] := by
  obtain ⟨jsonrpc, id, outcome⟩ := r
  cases outcome <;> rfl

theorem beq_outcomeName {k : String} (h : inHeader k = true) {o : Except ErrorObject Json} :
    (k == outcomeName o) = false := by
  rcases inHeader_iff.mp h with rfl | rfl <;> cases o <;> rfl

theorem sortKeys_members (a b c : Json) (o : Except ErrorObject Json) :
    Text.sortKeys [("jsonrpc", a), ("id", b), (outcomeName o, c)] =
      match o with
      | .ok _ => [("id", b), ("jsonrpc", a), ("result", c)]
      | .error _ => [("error", c), ("id", b), ("jsonrpc", a)] := by
  have hid : "id" < "jsonrpc" := by decide
  cases o with
  | ok v =>
    have hlast : ¬"result" < "id" ∧ ¬"result" < "jsonrpc" := by decide
    simp only [Text.sortKeys, List.foldl_cons, List.foldl_nil, outcomeName, Text.insertKey,
      if_pos hid, if_neg hlast.1, if_neg hlast.2, String.reduceEq, if_false]
  | error e =>
    have hfirst : "error" < "id" := by decide
    simp only [Text.sortKeys, List.foldl_cons, List.foldl_nil, outcomeName, Text.insertKey,
      if_pos hid, if_pos hfirst]

theorem decode_encode (r : Response) : codec.decode (codec.encode r) = .ok r.settled := by
  rw [encode_eq, decode_eq_ok_iff]
  refine ⟨_, rfl, ?_, ⟨.str r.jsonrpc, ?_, rfl⟩, ?_, fun m _ _ => ⟨m.2, rfl⟩, ?_⟩
  · exact (Text.pairwise_sortKeys _).imp fun hlt _ heq => String.lt_irrefl _ (heq ▸ hlt)
  · simp [Text.lookup_sortKeys, List.lookup_cons, beq_outcomeName (k := "jsonrpc") rfl]
  · simp [Text.lookup_sortKeys, List.lookup_cons, beq_outcomeName (k := "id") rfl]
    rfl
  · rw [sortKeys_members]
    obtain ⟨jsonrpc, id, outcome⟩ := r
    cases outcome with
    | ok v => exact .skip (by simp) (by simp) (.skip (by simp) (by simp) (.result rfl rfl))
    | error e => exact .error rfl e.decode_encode

theorem Reports.settled [Source ν] {ms : List (String × ν)} {o : Except ErrorObject Json}
    (h : Reports ms o) : o.mapError ErrorObject.settled = o := by
  induction h with
  | result => rfl
  | error _ he => exact congrArg Except.error (ErrorObject.settled_of_decode he)
  | skip _ _ _ ih => exact ih

theorem settled_of_decode [Source ν] {v : ν} {r : Response} (h : codec.decode v = .ok r) :
    r.settled = r := by
  obtain ⟨ms, -, hreading⟩ := decode_eq_ok_iff.mp h
  exact congrArg (Response.mk r.jsonrpc r.id) hreading.outcome.settled

theorem settled_eq_self_iff {r : Response} :
    r.settled = r ↔ ∀ e, r.outcome = .error e → e.data ≠ some .null := by
  obtain ⟨jsonrpc, id, outcome⟩ := r
  simp only [settled, mk.injEq, true_and]
  cases outcome with
  | ok v => exact iff_of_true rfl nofun
  | error e => simp [Except.mapError, ErrorObject.settled_eq_self_iff]

/-- A response is written under three names and read again as what remains of it, which is the
response itself unless null was meant as data of an error; what was read once stays as it is. -/
theorem written_and_read (r : Response) :
    codec.encode r = .obj [("jsonrpc", .str r.jsonrpc), ("id", r.id),
      (outcomeName r.outcome, outcomeValue r.outcome)] ∧
    codec.decode (codec.encode r) = .ok r.settled ∧
    (r.settled = r ↔ ∀ e, r.outcome = .error e → e.data ≠ some .null) ∧
    ∀ {ν : Type} [Source ν] (v : ν), codec.decode v = .ok r →
      codec.decode (codec.encode r) = .ok r := by
  refine ⟨encode_eq r, decode_encode r, settled_eq_self_iff, fun v h => ?_⟩
  rw [decode_encode, settled_of_decode h]

theorem written_and_read_look_alikes :
    let nested : Json :=
      .obj [("result", .null), ("error", .null), ("id", .int 1), ("jsonrpc", .null)]
    let failed : Response := .error nested ⟨-1, "result", some .null⟩
    codec.decode (codec.encode (.result .null nested)) = .ok (.result .null nested) ∧
    codec.decode (codec.encode failed) = .ok (.error nested ⟨-1, "result", none⟩) ∧
    codec.decode (codec.encode failed.settled) = .ok failed.settled := by
  intro nested failed
  have hfailed := (written_and_read failed).2.1
  exact ⟨(written_and_read (.result .null nested)).2.1, hfailed,
    (written_and_read failed.settled).2.2.2 (codec.encode failed) hfailed⟩

end Response
end Overlay.JsonRpc
