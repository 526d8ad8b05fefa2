import Overlay.Fabric.Link
import Overlay.Proofs.Text.Numeral

namespace Overlay.Fabric

def Endpoint.ofText? (cs : List Char) : Option Endpoint :=
  match cs.splitOn '/' with
  | [dpid, port] => do
    let dpid ← (Text.numeral 10 UInt64.size dpid).toOption
    let port ← (Text.numeral 10 UInt16.size port).toOption
    return ⟨⟨.ofNat dpid⟩, .ofNat port⟩
  | _ => none

def Link.ofPathText? (s : String) : Option Link :=
  match s.toList.splitOn '-' with
  | [src, dst] => do return ⟨← Endpoint.ofText? src, ← Endpoint.ofText? dst⟩
  | _ => none

theorem not_mem_toDigits {c : Char} (hc : c.isDigit = false) (n : Nat) :
    c ∉ Nat.toDigits 10 n := by
  intro h
  have := Nat.isDigit_of_mem_toDigits (by decide) (by decide) h
  rw [hc] at this
  cases this

namespace Endpoint

theorem toList_text (e : Endpoint) : e.text.toList =
    Nat.toDigits 10 e.dpid.val.toNat ++ '/' :: Nat.toDigits 10 e.port.toNat := by
  have htext : e.text = toString e.dpid.val.toNat ++ "/" ++ toString e.port.toNat := rfl
  simp [htext]

theorem not_mem_text {c : Char} (hc : c.isDigit = false) (hslash : c ≠ '/') (e : Endpoint) :
    c ∉ e.text.toList := by
  rw [toList_text]
  simp [not_mem_toDigits hc, hslash]

theorem ofText?_text (e : Endpoint) : ofText? e.text.toList = some e := by
  have hdpid : Text.numeral 10 UInt64.size (Nat.toDigits 10 e.dpid.val.toNat) =
      .ok e.dpid.val.toNat := Text.numeral_toDigits e.dpid.val.toNat_lt_size
  have hport : Text.numeral 10 UInt16.size (Nat.toDigits 10 e.port.toNat) =
      .ok e.port.toNat := Text.numeral_toDigits e.port.toNat_lt_size
  have hsplit : e.text.toList.splitOn '/' =
      [Nat.toDigits 10 e.dpid.val.toNat, Nat.toDigits 10 e.port.toNat] := by
    rw [toList_text, List.splitOn_append_cons_self_of_not_mem (not_mem_toDigits (by decide) _),
      List.splitOn_eq_singleton (not_mem_toDigits (by decide) _)]
  rw [ofText?, hsplit]
  simp only [hdpid, hport]
  simp [Except.toOption]

end Endpoint

namespace Link

theorem toList_pathText (l : Link) :
    l.pathText.toList = l.src.text.toList ++ '-' :: l.dst.text.toList := by
  have htext : l.pathText = l.src.text ++ "-" ++ l.dst.text := rfl
  simp [htext]

theorem ofPathText?_pathText (l : Link) : ofPathText? l.pathText = some l := by
  have hsplit : l.pathText.toList.splitOn '-' = [l.src.text.toList, l.dst.text.toList] := by
    have hdash (e : Endpoint) := e.not_mem_text (c := '-') (by decide) (by decide)
    rw [toList_pathText, List.splitOn_append_cons_self_of_not_mem (hdash _),
      List.splitOn_eq_singleton (hdash _)]
  rw [ofPathText?, hsplit]
  simp [Endpoint.ofText?_text]

theorem pathText_injective : Function.Injective pathText := by
  intro l m h
  have := ofPathText?_pathText l
  rw [h, ofPathText?_pathText] at this
  exact (Option.some.inj this).symm

end Link
end Overlay.Fabric
