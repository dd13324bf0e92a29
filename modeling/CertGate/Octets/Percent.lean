import CertGate.Octets.Utf8
import CertGate.Text.Digits

/-!
# Percent escapes

`Percent.decode` reads a text in which `%XX` stands for one octet of its UTF-8 form. A percent sign
without two hexadecimal digits behind it stands for itself, and so does everything else, the plus
sign included. `Percent.escape` is the escape of an octet, in capitals.
-/

namespace CertGate.Percent

def hexValue? (b : UInt8) : Option Nat := Text.digitValue? 16 (Char.ofNat b.toNat)

def pair? (a b : UInt8) : Option UInt8 := do
  let high ← hexValue? a
  let low ← hexValue? b
  return UInt8.ofNat (high * 16 + low)

/-- The octets that escaped octets stand for. -/
def unescape : List UInt8 → List UInt8
  | [] => []
  | 37 :: a :: b :: rest =>
    match pair? a b with
    | some octet => octet :: unescape rest
    | none => 37 :: unescape (a :: b :: rest)
  | b :: rest => b :: unescape rest

def escape (b : UInt8) : List Char := '%' :: (Text.padded 16 2 b.toNat).map Char.toUpper

/-- The text that escaped octets stand for. -/
def decodeOctets (bs : List UInt8) : String := Utf8.decodeLossy (unescape bs)

def decode (s : String) : String := decodeOctets (Utf8.encode s)

end CertGate.Percent
