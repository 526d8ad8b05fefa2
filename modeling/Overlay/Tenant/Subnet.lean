import Overlay.Net.Ipv4
import Overlay.Text.Blank

namespace Overlay.Tenant

structure Subnet where
  address : Net.Ipv4
  mask : Nat
  deriving DecidableEq, Repr

namespace Subnet

def parts (cs : List Char) : List Char × Option (List Char) :=
  match cs.span (· ≠ '/') with
  | (address, []) => (address, none)
  | (address, _ :: mask) => (address, some mask)

def mask? (cs : List Char) : Option Nat := (Text.numeral 10 256 (Text.trimBlank cs)).toOption

def parse? (s : String) : Option Subnet :=
  match parts s.toList with
  | (_, none) => none
  | (address, some mask) => do
    let address ← Net.Ipv4.ofChars? (Text.trimBlank address)
    let mask ← mask? mask
    if mask ≤ 32 then some ⟨address, mask⟩ else none

def split (s : String) : String × Option Nat :=
  let (address, mask) := parts s.toList
  (String.ofList address, mask.bind mask?)

end Subnet
end Overlay.Tenant
