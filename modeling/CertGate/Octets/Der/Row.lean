import CertGate.Octets.Der

/-!
# Rows of fields

What stands inside an element is often a fixed row of fields, some of which may be left out. A
`Field` says which elements it takes and what they have to be like, and `Field.fill` tells whether
elements make up a row of fields: each takes the next element if that is one of its own.

The fields of the primitive types are here; a row is itself a field by `Field.sequence`.
-/

namespace CertGate.Der

structure Field where
  /-- Whether an element stands in this place. -/
  takes : Element → Bool
  /-- What an element in this place has to be like. -/
  accepts : Element → Bool
  required : Bool

namespace Field

/-- Whether elements make up a row of fields. -/
def fill : List Field → List Element → Bool
  | [], es => es.isEmpty
  | f :: fs, [] => !f.required && fill fs []
  | f :: fs, e :: es =>
    if f.takes e then f.accepts e && fill fs es else !f.required && fill fs (e :: es)

def tagged (tag : UInt8) (accepts : Element → Bool) : Field := ⟨(·.hasTag tag), accepts, true⟩

def optional (f : Field) : Field := { f with required := false }

def isRow (tag : UInt8) (fs : List Field) (e : Element) : Bool :=
  match e.inside? tag with
  | some es => fill fs es
  | none => false

def sequence (fs : List Field) : Field := tagged 0x30 (isRow 0x30 fs)

/-- A field inside an element with a number of its own, or nothing. -/
def numbered (n : UInt8) (f : Field) : Field := optional (tagged (0xA0 + n) (isRow (0xA0 + n) [f]))

def anything : Field := ⟨fun _ => true, fun _ => true, true⟩

def null : Field := tagged 0x05 (·.content.isEmpty)

def objectId : Field := tagged 0x06 fun e => (objectId? e.content).isSome

def octets : Field := tagged 0x04 fun _ => true

def bits : Field := tagged 0x03 fun e => isBitString e.content

/-- A number that is not negative and of at most so many bits. -/
def number (size : Nat) : Field := tagged 0x02 fun e =>
  match integer? e.content with
  | some n => 0 ≤ n && fits size n.toNat
  | none => false

def natural : Field := tagged 0x02 fun e =>
  match integer? e.content with
  | some n => 0 ≤ n
  | none => false

/-- The field without elements that are spelled in one way. -/
def except (raw : List UInt8) (f : Field) : Field :=
  { f with accepts := fun e => e.raw ≠ raw && f.accepts e }

end Field
end CertGate.Der
