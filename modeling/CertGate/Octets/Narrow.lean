import CertGate.Octets.Percent

/-!
# Texts of octets

A server hands its variables over as texts in which each character stands for one octet.

* `Narrow.octets?` : the octets of such a text, `none` when a character is beyond them;
* `Narrow.text` : the text of octets;
* `Narrow.readable` : the text that octets spell in UTF-8, with escapes for the ill-formed parts.
-/

namespace CertGate.Narrow

def octet? (c : Char) : Option UInt8 :=
  if c.toNat < 256 then some (UInt8.ofNat c.toNat) else none

def octets? (s : String) : Option (List UInt8) := s.toList.mapM octet?

def text (bs : List UInt8) : String := String.ofList (bs.map fun b => Char.ofNat b.toNat)

/-- The text that octets spell, each octet of an ill-formed part as an escape. -/
def readable (bs : List UInt8) : String :=
  String.ofList (Utf8.charsWith (fun part => part.flatMap Percent.escape) bs)

end CertGate.Narrow
