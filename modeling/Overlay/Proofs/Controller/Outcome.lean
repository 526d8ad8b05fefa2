import Overlay.Proofs.Controller.Reply

namespace Overlay

theorem Json.word?_eq_some_iff {v : Json} {n : UInt64} : v.word? = some n ↔ v = .ofWord n := by
  refine ⟨fun h => ?_, fun h => h ▸ Json.word?_ofWord n⟩
  cases v with
  | int i =>
    simp only [word?, Option.ite_none_right_eq_some] at h
    obtain ⟨⟨hlow, hhigh⟩, h⟩ := h
    obtain rfl := Option.some.inj h
    have hlt : i.toNat < UInt64.size := by omega
    rw [ofWord, UInt64.toNat_ofNat_of_lt' hlt, Int.toNat_of_nonneg hlow]
  | _ => cases h

namespace Controller

open Fabric JsonRpc

def IsSuccess (status : UInt16) : Prop := 200 ≤ status ∧ status ≤ 299

def Responds (body : ByteArray) (r : Response) : Prop :=
  ∃ d, Json.Document.ofBytes? body = some d ∧ Response.codec.decode d.whole = .ok r

inductive Numbers (field : String) (n : UInt64) : Json → Prop
  | bare : Numbers field n (.ofWord n)
  | member : v.member? field = some (.ofWord n) → Numbers field n v

inductive Yields : (c : Call) → Json → Except BadReply c.Reply → Prop
  | description : Description.codec.decode v = .ok d → Yields .getPhysicalTopology v (.ok d)
  | noDescription : Description.codec.decode v = .error e →
      Yields .getPhysicalTopology v (.error (.unreadable e))
  | tenant : Numbers "tenantId" n v →
      Yields (.createNetwork protocol host port subnet) v (.ok ⟨n⟩)
  | noTenant : (∀ n, ¬Numbers "tenantId" n v) →
      Yields (.createNetwork protocol host port subnet) v (.error (.noNumber "tenantId" v))
  | switch : Numbers "vdpid" n v → Yields (.createSwitch tenant dpids) v (.ok ⟨n⟩)
  | noSwitch : (∀ n, ¬Numbers "vdpid" n v) →
      Yields (.createSwitch tenant dpids) v (.error (.noNumber "vdpid" v))
  | link : Yields (.createLink tenant path) v (.ok ())
  | host : Yields (.createHost tenant dpid port mac) v (.ok ())
  | switchRoute : Yields (.createSwitchRoute tenant switch route) v (.ok ())
  | start : Yields (.startNetwork tenant) v (.ok ())

/-- What a delivery makes of a call that was posted to an address. -/
inductive Outcome (c : Call) (url : Net.Url) : Delivery → Except Failure c.Reply → Prop
  | dropped : Outcome c url .dropped (.error (.unreachable (.noConnection url.text)))
  | status : ¬IsSuccess status →
      Outcome c url (.answered status body) (.error (.status c.method status))
  | noResponse : IsSuccess status → (∀ r, ¬Responds body r) →
      Outcome c url (.answered status body) (.error (.badReply c.method .noResponse))
  | rejected : IsSuccess status → Responds body r → r.outcome = .error e →
      Outcome c url (.answered status body) (.error (.rejected c.method e))
  | badResult : IsSuccess status → Responds body r → r.outcome = .ok v →
      Yields c v (.error fault) →
      Outcome c url (.answered status body) (.error (.badReply c.method fault))
  | reply : IsSuccess status → Responds body r → r.outcome = .ok v → Yields c v (.ok reply) →
      Outcome c url (.answered status body) (.ok reply)

variable {field : String} {v : Json} {n : UInt64} {c : Call}

theorem numbers_iff :
    (v.word? <|> (v.member? field).bind Json.word?) = some n ↔ Numbers field n v := by
  simp only [Option.orElse_eq_orElse, Option.orElse_eq_or, Option.or_eq_some_iff,
    Option.bind_eq_some_iff, Json.word?_eq_some_iff]
  constructor
  · rintro (rfl | ⟨-, w, hw, rfl⟩)
    · exact .bare
    · exact .member hw
  · intro h
    cases h with
    | bare => exact .inl rfl
    | member hmember =>
      refine .inr ⟨?_, _, hmember, rfl⟩
      cases v with
      | obj ms => rfl
      | _ => cases hmember

theorem readNumber_of_numbers (h : Numbers field n v) : Call.readNumber field v = .ok n := by
  rw [Call.readNumber, numbers_iff.mpr h]

theorem readNumber_of_not_numbers (h : ∀ n, ¬Numbers field n v) :
    Call.readNumber field v = .error (.noNumber field v) := by
  have hnone : (v.word? <|> (v.member? field).bind Json.word?) = none :=
    Option.eq_none_iff_forall_ne_some.mpr fun n hn => h n (numbers_iff.mp hn)
  rw [Call.readNumber, hnone]

theorem exists_yields (c : Call) (v : Json) : ∃ o, Yields c v o := by
  cases c with
  | getPhysicalTopology =>
    cases h : Description.codec.decode v with
    | ok d => exact ⟨_, .description h⟩
    | error e => exact ⟨_, .noDescription h⟩
  | createNetwork =>
    by_cases h : ∃ n, Numbers "tenantId" n v
    · exact ⟨_, .tenant h.choose_spec⟩
    · exact ⟨_, .noTenant (not_exists.mp h)⟩
  | createSwitch =>
    by_cases h : ∃ n, Numbers "vdpid" n v
    · exact ⟨_, .switch h.choose_spec⟩
    · exact ⟨_, .noSwitch (not_exists.mp h)⟩
  | createLink => exact ⟨_, .link⟩
  | createHost => exact ⟨_, .host⟩
  | createSwitchRoute => exact ⟨_, .switchRoute⟩
  | startNetwork => exact ⟨_, .start⟩

theorem Yields.readResult {o : Except BadReply c.Reply} (h : Yields c v o) :
    c.readResult v = o := by
  cases h with
  | description h => exact congrArg (Except.mapError _) h
  | noDescription h => exact congrArg (Except.mapError _) h
  | tenant h => exact congrArg (Except.map _) (readNumber_of_numbers h)
  | noTenant h => exact congrArg (Except.map _) (readNumber_of_not_numbers h)
  | switch h => exact congrArg (Except.map _) (readNumber_of_numbers h)
  | noSwitch h => exact congrArg (Except.map _) (readNumber_of_not_numbers h)
  | link => rfl
  | host => rfl
  | switchRoute => rfl
  | start => rfl

theorem yields_readResult (c : Call) (v : Json) : Yields c v (c.readResult v) := by
  obtain ⟨o, h⟩ := exists_yields c v
  exact h.readResult ▸ h

theorem isSuccess_iff {status : UInt16} :
    IsSuccess status ↔ ¬(status < 200 ∨ 300 ≤ status) := by
  simp only [IsSuccess, UInt16.le_iff_toNat_le, UInt16.lt_iff_toNat_lt]
  change 200 ≤ status.toNat ∧ status.toNat ≤ 299 ↔ ¬(status.toNat < 200 ∨ 300 ≤ status.toNat)
  omega

theorem readResponse?_eq_none {body : ByteArray} (h : ∀ r, ¬Responds body r) :
    readResponse? body = none :=
  Option.eq_none_iff_forall_ne_some.mpr fun r hr => h r (readResponse?_eq_some_iff.mp hr)

theorem readDelivery_eq_iff {url : Net.Url} {delivery : Delivery} {o : Except Failure c.Reply} :
    readDelivery c url delivery = o ↔ Outcome c url delivery o := by
  constructor
  · rintro rfl
    cases delivery with
    | dropped => exact .dropped
    | answered status body =>
      rw [readDelivery]
      split
      case isTrue hstatus => exact .status fun h => isSuccess_iff.mp h hstatus
      case isFalse hstatus =>
        have hsuccess := isSuccess_iff.mpr hstatus
        cases hr : readResponse? body with
        | none =>
          refine .noResponse hsuccess fun r hresponds => ?_
          cases hr.symm.trans (readResponse?_eq_some_iff.mpr hresponds)
        | some r =>
          have hresponds := readResponse?_eq_some_iff.mp hr
          dsimp only
          cases houtcome : r.outcome with
          | error e => exact .rejected hsuccess hresponds houtcome
          | ok v =>
            have hyields := yields_readResult c v
            dsimp only
            cases hresult : c.readResult v with
            | error fault => exact .badResult hsuccess hresponds houtcome (hresult ▸ hyields)
            | ok reply => exact .reply hsuccess hresponds houtcome (hresult ▸ hyields)
  · intro h
    cases h with
    | dropped => rfl
    | status hstatus =>
      exact if_pos (Decidable.byContradiction fun h => hstatus (isSuccess_iff.mpr h))
    | noResponse hsuccess hresponds =>
      rw [readDelivery, if_neg (isSuccess_iff.mp hsuccess), readResponse?_eq_none hresponds]
    | rejected hsuccess hresponds houtcome =>
      rw [readDelivery, if_neg (isSuccess_iff.mp hsuccess), readResponse?_eq_some_iff.mpr hresponds]
      simp only [houtcome]
    | badResult hsuccess hresponds houtcome hyields =>
      rw [readDelivery, if_neg (isSuccess_iff.mp hsuccess), readResponse?_eq_some_iff.mpr hresponds]
      simp only [houtcome, hyields.readResult]
      rfl
    | reply hsuccess hresponds houtcome hyields =>
      rw [readDelivery, if_neg (isSuccess_iff.mp hsuccess), readResponse?_eq_some_iff.mpr hresponds]
      simp only [houtcome, hyields.readResult]
      rfl

end Controller
end Overlay
