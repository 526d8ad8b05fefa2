import Overlay.Proofs.Controller.Outcome
import Overlay.Proofs.Text.Trim
/-!
# Runs of calls over HTTP

However its calls fare, a client numbers them from one. Each call is posted once, to an address that
takes requests, or is not posted at all; what comes of it depends on what became of its own request.
-/
namespace Overlay.Controller

open JsonRpc

structure Posting where
  request : HttpRequest
  delivery : Delivery

structure Round extends Exchange where
  postings : List Posting

def exchange (k : Controller σ) (c : Call) : StateM σ Exchange := do return ⟨c, ← k.answer c⟩

def exchanges (k : Controller σ) (calls : List Call) : StateM σ (List Exchange) :=
  calls.mapM (exchange k)

/-- A transport that also keeps what it has posted. -/
def Transport.recorded (post : Transport τ) : Transport (τ × List Posting) := fun request state =>
  let (delivery, s) := post request state.1
  (delivery, s, state.2 ++ [⟨request, delivery⟩])

inductive Refuses (address : String) : Unreachable → Prop
  | none : Net.Url.parse? address = none → Refuses address .badAddress
  | scheme : Net.Url.parse? address = some url → ¬url.takesRequests →
      Refuses address (.badScheme url.text)

/-- How the call of a number goes under a base address. -/
inductive Settled (base : String) (number : Nat) : Round → Prop
  | posted {c : Call} {reply : Except Failure c.Reply} :
      Net.Url.parse? (base ++ c.endpoint) = some url → url.takesRequests →
      (∀ o, reply = o ↔ Outcome c url delivery o) →
      Settled base number ⟨⟨c, reply⟩,
        [⟨⟨base ++ c.endpoint, ⟨"2.0", c.method, c.params, .ofNat number⟩⟩, delivery⟩]⟩
  | refused : Refuses (base ++ c.endpoint) cause →
      Settled base number ⟨⟨c, .error (.unreachable cause)⟩, []⟩

namespace HttpClient

variable {base : String} {post : Transport τ} {client : HttpClient τ}

def round (base : String) (post : Transport τ) (c : Call) : StateM (HttpClient τ) Round :=
  fun client =>
    let result := (controller base post.recorded).answer c
      ⟨client.nextId, (client.transport, [])⟩
    (⟨⟨c, result.1⟩, result.2.transport.2⟩, ⟨result.2.nextId, result.2.transport.1⟩)

def rounds (base : String) (post : Transport τ) (calls : List Call) :
    StateM (HttpClient τ) (List Round) :=
  calls.mapM (round base post)

theorem mapM_cons_apply {f : α → StateM σ β} {a : α} {as : List α} {s : σ} :
    (a :: as).mapM f s = ((f a s).1 :: (as.mapM f (f a s).2).1, (as.mapM f (f a s).2).2) := by
  rw [List.mapM_cons]
  rfl

theorem rounds_cons (c : Call) (calls : List Call) : rounds base post (c :: calls) client =
    let first := round base post c client
    let others := rounds base post calls first.2
    (first.1 :: others.1, others.2) :=
  mapM_cons_apply

theorem exchanges_cons {k : Controller σ} {s : σ} (c : Call) (calls : List Call) :
    exchanges k (c :: calls) s =
      let others := exchanges k calls (k.answer c s).2
      (⟨c, (k.answer c s).1⟩ :: others.1, others.2) :=
  mapM_cons_apply

theorem trimBase_spec (base : String) :
    (∃ n, base = trimBase base ++ String.ofList (List.replicate n '/')) ∧
      (trimBase base).toList.getLast? ≠ some '/' := by
  have htrim : base.toList.rdropWhile (· = '/') = (trimBase base).toList :=
    String.toList_ofList.symm
  obtain ⟨after, hbase, hafter, hlast⟩ := Text.rdropWhile_eq_iff.mp htrim
  have hslashes : after = List.replicate after.length '/' :=
    List.eq_replicate_of_mem fun c hc => of_decide_eq_true (hafter c hc)
  refine ⟨⟨after.length, String.toList_injective ?_⟩, fun h => ?_⟩
  · rw [String.toList_append, String.toList_ofList, ← hslashes, ← hbase]
  · exact absurd (hlast '/' h) (by decide)

theorem call_of_posted {c : Call} {url : Net.Url}
    (hurl : Net.Url.parse? (base ++ c.endpoint) = some url) (hsends : url.takesRequests = true) :
    call base post c client =
      let result := post ⟨base ++ c.endpoint, c.request client.nextId⟩ client.transport
      (readDelivery c url result.1, ⟨client.nextId + 1, result.2⟩) := by
  unfold call
  simp only [hurl, hsends, if_true]
  rfl

theorem call_of_refuses {c : Call} {cause : Unreachable} (h : Refuses (base ++ c.endpoint) cause) :
    call base post c client =
      (.error (.unreachable cause), ⟨client.nextId + 1, client.transport⟩) := by
  cases h with
  | none hurl => simp only [call, hurl]
  | scheme hurl hsends => simp only [call, hurl, if_neg hsends]

theorem posted_or_refused (address : String) :
    (∃ url, Net.Url.parse? address = some url ∧ url.takesRequests = true) ∨
      ∃ cause, Refuses address cause := by
  cases hurl : Net.Url.parse? address with
  | none => exact .inr ⟨_, .none hurl⟩
  | some url =>
    by_cases hsends : url.takesRequests = true
    · exact .inl ⟨url, rfl, hsends⟩
    · exact .inr ⟨_, .scheme hurl hsends⟩

theorem round_of_posted {c : Call} {url : Net.Url}
    (hurl : Net.Url.parse? (trimBase base ++ c.endpoint) = some url)
    (hsends : url.takesRequests = true) :
    round base post c client =
      let request : HttpRequest := ⟨trimBase base ++ c.endpoint, c.request client.nextId⟩
      let result := post request client.transport
      (⟨⟨c, readDelivery c url result.1⟩, [⟨request, result.1⟩]⟩,
        ⟨client.nextId + 1, result.2⟩) := by
  dsimp only [round, controller]
  rw [call_of_posted hurl hsends]
  rfl

theorem round_of_refuses {c : Call} {cause : Unreachable}
    (h : Refuses (trimBase base ++ c.endpoint) cause) :
    round base post c client =
      (⟨⟨c, .error (.unreachable cause)⟩, []⟩, ⟨client.nextId + 1, client.transport⟩) := by
  dsimp only [round, controller]
  rw [call_of_refuses h]

theorem round_eq_answer (base : String) (post : Transport τ) (client : HttpClient τ) (c : Call) :
    (round base post c client).1.toExchange = ⟨c, ((controller base post).answer c client).1⟩ ∧
      (round base post c client).2 = ((controller base post).answer c client).2 := by
  change _ = Exchange.mk c (call (trimBase base) post c client).1 ∧
    _ = (call (trimBase base) post c client).2
  rcases posted_or_refused (trimBase base ++ c.endpoint) with ⟨url, hurl, hsends⟩ | ⟨cause, h⟩
  · rw [round_of_posted hurl hsends, call_of_posted hurl hsends]
    exact ⟨rfl, rfl⟩
  · rw [round_of_refuses h, call_of_refuses h]
    exact ⟨rfl, rfl⟩

theorem nextId_round (c : Call) : (round base post c client).2.nextId = client.nextId + 1 := by
  rcases posted_or_refused (trimBase base ++ c.endpoint) with ⟨url, hurl, hsends⟩ | ⟨cause, h⟩
  · rw [round_of_posted hurl hsends]
  · rw [round_of_refuses h]

theorem settled_round (c : Call) :
    Settled (trimBase base) client.nextId.toNat (round base post c client).1 := by
  rcases posted_or_refused (trimBase base ++ c.endpoint) with ⟨url, hurl, hsends⟩ | ⟨cause, h⟩
  · rw [round_of_posted hurl hsends]
    exact .posted hurl hsends fun o => readDelivery_eq_iff
  · rw [round_of_refuses h]
    exact .refused h

theorem rounds_eq_exchanges (calls : List Call) :
    (rounds base post calls client).1.map Round.toExchange =
      (exchanges (controller base post) calls client).1 := by
  induction calls generalizing client with
  | nil => rfl
  | cons c calls ih =>
    obtain ⟨hexchange, hnext⟩ := round_eq_answer base post client c
    rw [rounds_cons, exchanges_cons, List.map_cons, hexchange, hnext, ih]

theorem calls_of_rounds (calls : List Call) :
    (rounds base post calls client).1.map (·.call) = calls := by
  induction calls generalizing client with
  | nil => rfl
  | cons c calls ih =>
    rw [rounds_cons, List.map_cons, ih]
    rfl

theorem settled_of_rounds {calls : List Call} {k : Nat} {r : Round}
    (h : (rounds base post calls client).1[k]? = some r)
    (hk : client.nextId.toNat + k < UInt64.size) :
    Settled (trimBase base) (client.nextId.toNat + k) r := by
  -- Each call leaves a client of the next number, so the client is general.
  induction calls generalizing client k with
  | nil => cases h
  | cons c calls ih =>
    rw [rounds_cons] at h
    cases k with
    | zero =>
      cases h
      exact settled_round c
    | succ k =>
      have hnext : (round base post c client).2.nextId.toNat = client.nextId.toNat + 1 := by
        rw [nextId_round, UInt64.toNat_add, Nat.mod_eq_of_lt]
        · rfl
        · change client.nextId.toNat + 1 < UInt64.size
          omega
      have := ih h (by omega)
      rwa [hnext, Nat.add_right_comm] at this

/-- Of any calls in a row the one at each place is posted under its number, if its address takes
requests, and what comes of it is decided by what became of that one posting. -/
theorem rounds_settle (base : String) (post : Transport τ) (s : τ) (calls : List Call)
    (h : calls.length < UInt64.size) :
    let rounds := (rounds base post calls { transport := s }).1
    ((∃ n, base = trimBase base ++ String.ofList (List.replicate n '/')) ∧
      (trimBase base).toList.getLast? ≠ some '/') ∧
    rounds.map Round.toExchange =
      (exchanges (controller base post) calls { transport := s }).1 ∧
    rounds.map (·.call) = calls ∧
    ∀ k r, rounds[k]? = some r → Settled (trimBase base) (k + 1) r := by
  intro rounds
  have hcalls : rounds.map (·.call) = calls := calls_of_rounds calls
  refine ⟨trimBase_spec base, rounds_eq_exchanges calls, hcalls, fun k r hr => ?_⟩
  have hlength : rounds.length = calls.length := by
    rw [← hcalls, List.length_map]
  obtain ⟨hk, -⟩ := List.getElem?_eq_some_iff.mp hr
  rw [Nat.add_comm]
  exact settled_of_rounds hr (by change 1 + k < _; omega)

def doneText : String := "\x7b\"jsonrpc\":\"2.0\",\"id\":1,\"result\":null\x7d"

def droppingFirst (text : String) : Transport Bool := fun _ dropped =>
  (if dropped then .answered 200 text.toUTF8 else .dropped, true)

theorem rounds_settle_after_drop :
    let rounds := (rounds "http://ovx/" (droppingFirst doneText)
      [.getPhysicalTopology, .startNetwork ⟨1⟩] { transport := false }).1
    [Call.getPhysicalTopology, .startNetwork ⟨1⟩].length < UInt64.size ∧
    rounds.map (·.reply.isOk) = [false, true] ∧
    ∃ r, rounds[1]? = some r ∧ Settled "http://ovx" 2 r := by
  intro rounds
  obtain ⟨-, -, hcalls, hsettled⟩ := rounds_settle "http://ovx/" (droppingFirst doneText) false
    [.getPhysicalTopology, .startNetwork ⟨1⟩] (by decide)
  have hlength : 1 < rounds.length := by
    rw [← List.length_map (f := (·.call)), hcalls]
    decide
  refine ⟨by decide, by decide +kernel, rounds[1], List.getElem?_eq_getElem hlength, ?_⟩
  exact hsettled 1 _ (List.getElem?_eq_getElem hlength)

/-- There are addresses that nothing is posted to. -/
theorem rounds_of_ftp :
    (∃ url, Net.Url.parse? ("ftp://ovx" ++ (Call.startNetwork ⟨1⟩).endpoint) = some url) ∧
    (rounds "ftp://ovx" (Transport.stating doneText) [.startNetwork ⟨1⟩] { transport := () }).1 =
      [⟨⟨.startNetwork ⟨1⟩, .error (.unreachable (.badScheme "ftp://ovx/tenant"))⟩, []⟩] := by
  have hurl : Net.Url.parse? ("ftp://ovx" ++ (Call.startNetwork ⟨1⟩).endpoint) =
      some ⟨"ftp", some ⟨"", .name "ovx", none⟩, "/tenant", "", ""⟩ := by decide +kernel
  have hrefuses : Refuses (trimBase "ftp://ovx" ++ (Call.startNetwork ⟨1⟩).endpoint)
      (.badScheme "ftp://ovx/tenant") := by
    have htrim : trimBase "ftp://ovx" = "ftp://ovx" := by decide +kernel
    rw [htrim]
    exact .scheme hurl (by decide +kernel)
  refine ⟨⟨_, hurl⟩, ?_⟩
  rw [rounds_cons, round_of_refuses hrefuses]
  rfl

end HttpClient
end Overlay.Controller
