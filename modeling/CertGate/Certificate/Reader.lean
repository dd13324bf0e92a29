import CertGate.Certificate.Algorithm
import CertGate.Certificate.Name
import CertGate.Octets.Wide
import CertGate.Time.Moment

/-!
# Reading certificates

`Certificate.ofDer` reads the distinguished encoding of a certificate. The structure is checked as a
whole, parameters of algorithms included; keys, signatures and the contents of extensions are not
looked into.

A `Certificate` keeps what the gate asks for: serial number, names and validity. A time may name the
year nought, which no clock shows; then the bound is `none`.
-/

namespace CertGate

open Der (Element Field)

structure Certificate where
  serial : Int
  issuer : DistinguishedName
  subject : DistinguishedName
  notBefore? : Option Moment
  notAfter? : Option Moment
  deriving DecidableEq, Repr

inductive Certificate.Defect
  | malformed
  | unsupportedVersion
  deriving DecidableEq, Repr

namespace Certificate

/-! ## Names -/

/-- The characters of a printable string. -/
def isPlain (b : UInt8) : Bool :=
  (65 ≤ b && b ≤ 90) || (97 ≤ b && b ≤ 122) || (48 ≤ b && b ≤ 57) ||
    b ∈ [32, 39, 40, 41, 43, 44, 45, 46, 47, 58, 61, 63]

def asciiText (bs : List UInt8) : String := String.ofList (bs.map fun b => Char.ofNat b.toNat)

/-- The tags of values that are taken for UTF-8: octets, texts of several types, and times. -/
def octetTags : List UInt8 := [0x04, 0x0C, 0x12, 0x14, 0x16, 0x17, 0x18, 0x1A]

def attributeValue? (e : Element) : Option AttributeValue :=
  if e.hasTag 0x13 then
    if e.content.all isPlain then some (.text (asciiText e.content)) else none
  else if e.hasTag 0x1E then (Wide.decode16? e.content).map .text
  else if e.hasTag 0x1C then (Wide.decode32? e.content).map .text
  else if octetTags.any e.hasTag then some (.octets e.content)
  else if e.hasTag 0x03 then some (.bits e.content)
  else some .other

def attribute? (e : Element) : Option Attribute := do
  match ← e.inside? 0x30 with
  | [type, value] =>
    guard (type.hasTag 0x06)
    return ⟨← Der.objectId? type.content, ← attributeValue? value⟩
  | _ => none

/-- Whether octets stand in front of others in dictionary order, or are the same. -/
def precedes : List UInt8 → List UInt8 → Bool
  | [], _ => true
  | _ :: _, [] => false
  | a :: as, b :: bs => a < b || (a = b && precedes as bs)

def inOrder : List Element → Bool
  | e :: f :: rest => precedes e.raw f.raw && inOrder (f :: rest)
  | _ => true

def set? (e : Element) : Option (List Attribute) := do
  let elements ← e.inside? 0x31
  guard (inOrder elements)
  elements.mapM attribute?

def name? (e : Element) : Option DistinguishedName := do
  return ⟨← (← e.inside? 0x30).mapM set?⟩

/-! ## Times -/

/-- The number that decimal digits given as octets stand for. -/
def decimal? (bs : List UInt8) : Option Nat :=
  Text.ofDigits? 10 (bs.map fun b => Char.ofNat b.toNat)

/-- The moment of a year and ten digits behind it, if they are real; `none` in the year nought. -/
def moment? (year : Nat) (rest : List UInt8) : Option (Option Moment) := do
  let month ← decimal? (rest.take 2)
  let day ← decimal? ((rest.drop 2).take 2)
  let hour ← decimal? ((rest.drop 4).take 2)
  let minute ← decimal? ((rest.drop 6).take 2)
  let second ← decimal? ((rest.drop 8).take 2)
  guard (isDayOf year month day && rest.drop 10 = [90])
  let inDay ← Moment.of? Date.first hour minute second 0
  return (Date.of? year month day).map fun date => { inDay with date := date }

/-- A time with a year of two digits, from 1950 to 2049, or of four. -/
def time? (e : Element) : Option (Option Moment) :=
  if e.hasTag 0x17 && e.content.length = 13 then do
    let year ← decimal? (e.content.take 2)
    moment? (if 50 ≤ year then 1900 + year else 2000 + year) (e.content.drop 2)
  else if e.hasTag 0x18 && e.content.length = 15 then do
    let year ← decimal? (e.content.take 4)
    moment? year (e.content.drop 4)
  else none

def validity? (e : Element) : Option (Option Moment × Option Moment) := do
  match ← e.inside? 0x30 with
  | [start, finish] => return (← time? start, ← time? finish)
  | _ => none

/-! ## The other fields -/

def algorithm : Field := .tagged 0x30 isAlgorithm

def key : Field := .sequence [algorithm, .bits]

/-- A bit string with a tag of its own, or nothing. -/
def markedBits (tag : UInt8) : Field :=
  .optional (.tagged tag fun e => Der.isBitString e.content)

/-- An identifier, a mark when it is critical, and octets. -/
def extension : Field :=
  .sequence [.objectId, .optional (.tagged 0x01 (·.content = [0xFF])), .octets]

def extensions : Field := .tagged 0x30 fun e =>
  match e.inside? 0x30 with
  | some es => es.all fun e => extension.takes e && extension.accepts e
  | none => false

/-- What may stand behind the key. -/
def tail : List Field := [markedBits 0x81, markedBits 0x82, .numbered 3 extensions]

/-- The version number, which is left out when it is nought, and the elements behind it. -/
def version? : List Element → Option (Nat × List Element)
  | [] => none
  | e :: rest =>
    if e.hasTag 0xA0 then do
      match ← e.inside? 0xA0 with
      | [number] =>
        guard (number.hasTag 0x02)
        let n ← Der.integer? number.content
        guard (0 < n && n < 256)
        return (n.toNat, rest)
      | _ => none
    else some (0, e :: rest)

/-- The signed part: its version and what the gate asks for. -/
def body? (e : Element) : Option (Nat × Certificate) := do
  let (version, rest) ← version? (← e.inside? 0x30)
  match rest with
  | serial :: signature :: issuer :: validity :: subject :: rest =>
    guard (serial.hasTag 0x02)
    let number ← Der.integer? serial.content
    guard (isAlgorithm signature)
    let issuer ← name? issuer
    let (notBefore?, notAfter?) ← validity? validity
    let subject ← name? subject
    guard (Field.fill (key :: tail) rest)
    return (version, ⟨number, issuer, subject, notBefore?, notAfter?⟩)
  | _ => none

/-- A certificate with its version: the signed part, an algorithm and the signature. -/
def versioned? (bs : List UInt8) : Option (Nat × Certificate) := do
  match ← (← Der.single? bs).inside? 0x30 with
  | body :: rest =>
    let read ← body? body
    guard (Field.fill [algorithm, .bits] rest)
    return read
  | [] => none

/-- The certificate of its encoding. Of all versions, the first and the third are supported. -/
def ofDer (bs : List UInt8) : Except Defect Certificate :=
  match versioned? bs with
  | none => .error .malformed
  | some (version, c) => if version = 0 || version = 2 then .ok c else .error .unsupportedVersion

end Certificate
end CertGate
