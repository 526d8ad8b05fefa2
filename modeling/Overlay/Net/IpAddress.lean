import Overlay.Net.Ipv6

namespace Overlay.Net

inductive IpAddress
  | v4 (i : Ipv4)
  | v6 (i : Ipv6)
  deriving DecidableEq, Repr

namespace IpAddress

def parse? (s : String) : Option IpAddress :=
  (Ipv4.ofChars? s.toList).map v4 <|> (Ipv6.ofChars? s.toList).map v6

def text : IpAddress → String
  | v4 i => i.text
  | v6 i => i.text

def withPort (port : UInt16) : IpAddress → String
  | v4 i => s!"{i.text}:{port.toNat}"
  | v6 i => s!"[{i.text}]:{port.toNat}"

end IpAddress
end Overlay.Net
