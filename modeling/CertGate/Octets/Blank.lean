import CertGate.Text.Blank

/-!
# White space in octets

The white space of ASCII, as it is trimmed from raw certificate data and skipped inside base64.
-/

namespace CertGate.Octets

/-- The five controls from tab to carriage return, and the space. -/
def isBlank (b : UInt8) : Bool := (9 ≤ b && b ≤ 13) || b == 32

def trim (bs : List UInt8) : List UInt8 := Text.trimBy isBlank bs

/-- The octets of a text of ASCII characters. -/
def ofAscii (s : String) : List UInt8 := s.toList.map fun c => UInt8.ofNat c.toNat

end CertGate.Octets
