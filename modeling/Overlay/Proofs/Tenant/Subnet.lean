import Mathlib.Data.List.TakeDrop
import Overlay.Controller.HttpClient
import Overlay.Proofs.Text.Numeral
import Overlay.Proofs.Text.Trim

namespace Overlay

namespace Text

theorem isBlank_of_isDigit {c : Char} (h : c.isDigit = true) : isBlank c = false := by
  obtain ⟨hlow, hhigh⟩ := Char.isDigit_iff_toNat.mp h
  change 48 ≤ c.toNat at hlow
  change c.toNat ≤ 57 at hhigh
  simp [isBlank]
  omega

end Text

namespace Net.Ipv4

open Text

theorem isDigit_of_octet? {cs : List Char} {b : UInt8} (h : octet? cs = some b) :
    ∀ c ∈ cs, c.isDigit = true := by
  unfold octet? at h
  split at h
  · cases h
  · cases hn : appendDigits 10 256 0 cs with
    | error e =>
      rw [hn] at h
      cases h
    | ok n => exact isDigit_of_appendDigits hn

theorem octets_of_ofChars? {cs : List Char} {i : Ipv4} (h : ofChars? cs = some i) :
    ∃ p q r t, cs = ['.'].intercalate [p, q, r, t] ∧ octet? p = some i.a ∧
      octet? q = some i.b ∧ octet? r = some i.c ∧ octet? t = some i.d := by
  unfold ofChars? at h
  split at h
  · next a b c d heq =>
    cases h
    obtain ⟨p, _, hsplit, hp, heq⟩ := List.map_eq_cons_iff.mp heq
    obtain ⟨q, _, rfl, hq, heq⟩ := List.map_eq_cons_iff.mp heq
    obtain ⟨r, _, rfl, hr, heq⟩ := List.map_eq_cons_iff.mp heq
    obtain ⟨t, _, rfl, ht, heq⟩ := List.map_eq_cons_iff.mp heq
    obtain rfl := List.map_eq_nil_iff.mp heq
    refine ⟨p, q, r, t, ?_, hp, hq, hr, ht⟩
    rw [← hsplit, List.intercalate_splitOn]
  · cases h

theorem trimBlank_of_ofChars? {cs : List Char} {i : Ipv4} (h : ofChars? cs = some i) :
    trimBlank cs = cs := by
  obtain ⟨p, q, r, t, rfl, hp, hq, hr, ht⟩ := octets_of_ofChars? h
  have hoctet {cs : List Char} {b : UInt8} (h : octet? cs = some b) (c : Char) (hc : c ∈ cs) :
      isBlank c = false := isBlank_of_isDigit (isDigit_of_octet? h c hc)
  have hpoint : isBlank '.' = false := by decide
  refine trimBlank_eq_self fun c hc => ?_
  simp only [List.intercalate_cons_cons, List.intercalate_singleton, List.mem_append,
    List.mem_singleton] at hc
  rcases hc with (hc | rfl) | (hc | rfl) | (hc | rfl) | hc
  · exact hoctet hp c hc
  · exact hpoint
  · exact hoctet hq c hc
  · exact hpoint
  · exact hoctet hr c hc
  · exact hpoint
  · exact hoctet ht c hc

end Net.Ipv4

namespace Tenant.Subnet

open Text

theorem parts_eq (cs : List Char) : parts cs = (cs.takeWhile (· ≠ '/'),
    match cs.dropWhile (· ≠ '/') with
    | [] => none
    | _ :: mask => some mask) := by
  rw [parts, List.span_eq_takeWhile_dropWhile]
  cases cs.dropWhile (· ≠ '/') <;> rfl

theorem parts_of_parse? {s : String} {n : Subnet} (h : parse? s = some n) :
    ∃ address mask, parts s.toList = (address, some mask) ∧
      Net.Ipv4.ofChars? (trimBlank address) = some n.address ∧ mask? mask = some n.mask ∧
      n.mask ≤ 32 := by
  unfold parse? at h
  split at h
  · cases h
  · next address mask hparts =>
    obtain ⟨i, hi, h⟩ := Option.bind_eq_some_iff.mp h
    obtain ⟨m, hm, h⟩ := Option.bind_eq_some_iff.mp h
    split at h
    · next hle =>
      cases h
      exact ⟨address, mask, hparts, hi, hm, hle⟩
    · cases h

/-- The message that creates a network carries the mask of its subnet, and the address as far as the
text of the subnet has no blanks around it. -/
theorem request_subnet (protocol host : String) (port : UInt16) (id : UInt64) {s : String}
    {n : Subnet} (h : parse? s = some n) :
    let params := ((Controller.Call.createNetwork protocol host port s).request id).params
    let sent := s.toList.takeWhile (· ≠ '/')
    params.member? "networkAddress" = some (.str (String.ofList sent)) ∧
      params.member? "mask" = some (.int n.mask) ∧ n.mask ≤ 32 ∧
      Net.Ipv4.ofChars? (trimBlank sent) = some n.address ∧
      Net.Ipv4.ofChars? sent = if trimBlank sent = sent then some n.address else none := by
  intro params sent
  obtain ⟨address, mask, hparts, haddress, hmask, hle⟩ := parts_of_parse? h
  obtain rfl : sent = address := by
    rw [parts_eq] at hparts
    exact (Prod.mk.inj hparts).1
  have hsplit : split s = (String.ofList sent, some n.mask) := by
    rw [split, hparts]
    exact congrArg _ hmask
  have hparams : params = .obj [("protocol", .str protocol), ("controllerAddress", .str host),
      ("controllerPort", Json.Codec.port.encode port),
      ("networkAddress", .str (String.ofList sent)), ("mask", .int n.mask)] := by
    change (Controller.Call.createNetwork protocol host port s).params = _
    rw [Controller.Call.params, hsplit]
    rfl
  rw [hparams, Json.member?_obj, Json.member?_obj]
  refine ⟨rfl, rfl, hle, haddress, ?_⟩
  split
  · next htrim => rwa [htrim] at haddress
  · next htrim =>
    cases hsent : Net.Ipv4.ofChars? sent with
    | none => rfl
    | some i => exact absurd (Net.Ipv4.trimBlank_of_ofChars? hsent) htrim

theorem request_subnet_plain :
    let params := ((Controller.Call.createNetwork "tcp" "10.0.0.1" 6633 "10.1.0.0/ +16").request
      3).params
    parse? "10.1.0.0/ +16" = some ⟨⟨10, 1, 0, 0⟩, 16⟩ ∧
      params.member? "networkAddress" = some (.str "10.1.0.0") ∧
      params.member? "mask" = some (.int 16) ∧
      Net.Ipv4.ofChars? "10.1.0.0".toList = some ⟨10, 1, 0, 0⟩ := by
  intro params
  have hparse : parse? "10.1.0.0/ +16" = some ⟨⟨10, 1, 0, 0⟩, 16⟩ := by decide +kernel
  obtain ⟨haddress, hmask, -, hread, -⟩ := request_subnet "tcp" "10.0.0.1" 6633 3 hparse
  exact ⟨hparse, haddress, hmask, hread⟩

/-- A blank in front of the address is sent to a controller that does not expect one. -/
theorem request_subnet_blank :
    let params := ((Controller.Call.createNetwork "tcp" "10.0.0.1" 6633 " 10.0.0.0/16").request
      1).params
    parse? " 10.0.0.0/16" = some ⟨⟨10, 0, 0, 0⟩, 16⟩ ∧
      params.member? "networkAddress" = some (.str " 10.0.0.0") ∧
      Net.Ipv4.ofChars? " 10.0.0.0".toList = none := by
  refine ⟨by decide +kernel, ?_, by decide +kernel⟩
  rfl

end Tenant.Subnet

end Overlay
