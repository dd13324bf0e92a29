import CertGate.Certificate.Reader
import CertGate.Octets.Pem
import CertGate.Value.Compare

/-!
# Records of a chain

A record is what a server hands over for one certificate of a client. It may be the data of a
certificate, read on demand; an attached record, whose attributes may be missing or fail; or any
plain value, which has no attributes at all.

* `CertificateData.read` : the certificate, from PEM or from the distinguished encoding;
* `Record.subject`, `Record.issuer`, `Record.serial`, `Record.notBefore`, `Record.notAfter` :
  attributes of a record;
* `Record.checkValidity` : whether a record accepts a time.
-/

namespace CertGate

/-- The data of a certificate: octets, or something else that cannot be read. -/
inductive CertificateData
  | octets (bs : List UInt8)
  | other (v : Value)

/-- What reading an attribute of an attached record gives, whenever it is read. A failure of it can be handled. -/
inductive Reading
  | absent
  | gives (v : Value)
  | fails (f : Failure) (handled : f.isExit = false)

/-- What an attached record says of its own validity. -/
inductive ValidityCheck
  | passes
  | fails (f : Failure) (handled : f.isExit = false)
  | missing

/-- A record that a component of the server has filled in. -/
structure AttachedRecord where
  subject : Reading
  issuer : Reading
  serial : Reading
  notBefore : Reading
  notAfter : Reading
  check : ValidityCheck

inductive Record
  | certificate (data : CertificateData)
  | attached (r : AttachedRecord)
  | plain (v : Value)

instance : Inhabited Record := ⟨.plain .null⟩

namespace CertificateData

/-- The data of a value: a text as UTF-8, octets and anything else as they are. -/
def ofValue : Value → CertificateData
  | .text s => .octets (Utf8.encode s)
  | .octets bs => .octets bs
  | v => .other v

/-- The encoding of the certificate in octets without blanks around them. -/
def derIn? (data : List UInt8) : Option (List UInt8) :=
  if Pem.isPem data then Pem.certificate? data else some data

def readTrimmed (data : List UInt8) : Except Failure Certificate :=
  match derIn? data with
  | none => .error .unreadableCertificate
  | some der =>
    match Certificate.ofDer der with
    | .ok c => .ok c
    | .error .malformed => .error .unreadableCertificate
    | .error .unsupportedVersion => .error .unsupportedVersion

def der? (bs : List UInt8) : Option (List UInt8) := derIn? (Octets.trim bs)

def readOctets (bs : List UInt8) : Except Failure Certificate := readTrimmed (Octets.trim bs)

/-- The certificate in what is neither text nor octets. Octets may be left when it is trimmed. -/
def readOther (v : Value) : Except Failure Certificate := do
  match ← v.trim with
  | .octets bs => readTrimmed bs
  | .text _ => .error (.badBeginning "bytes")
  | .other _ unreadable => .error unreadable.failure

def read : CertificateData → Except Failure Certificate
  | octets bs => readOctets bs
  | other v => readOther v

/-- How many octets, or items, the data has. -/
def size : CertificateData → Except Failure Nat
  | octets bs => .ok bs.length
  | other v =>
    match v with
    | .text _ | .list _ | .tuple _ | .set _ | .mapping _ => return (← v.items).length
    | v => .error (.noLength v.typeName)

end CertificateData

namespace Certificate

def showName (n : DistinguishedName) : Except Failure String :=
  match n.text with
  | .ok s => .ok s
  | .error .malformed => .error .malformedField
  | .error .strayBits => .error .strayBits

def showBound (m? : Option Moment) : Except Failure Moment :=
  match m? with
  | some m => .ok m
  | none => .error .malformedField

/-- Whether a time lies within the validity, both bounds included. -/
def checkValidity (c : Certificate) (now : Timestamp) : Except Failure Unit := do
  let start ← showBound c.notBefore?
  match now.rank? with
  | none => .error .incomparableTimes
  | some n =>
    if n < start.rank then .error (.tooEarly start)
    else do
      let finish ← showBound c.notAfter?
      if (finish.rank : Int) < n then .error (.tooLate finish) else return ()

end Certificate

namespace Reading

def get (name : String) : Reading → Except Failure Value
  | absent => .error (.missingAttribute "Record" name)
  | gives v => .ok v
  | fails f _ => .error f

end Reading

namespace Record

/-- A field of a record, given how to get it from a certificate and from an attached one. -/
def field (name : String) (ofCertificate : Certificate → Except Failure Value)
    (ofAttached : AttachedRecord → Reading) : Record → Except Failure Value
  | certificate data => data.read >>= ofCertificate
  | attached r => (ofAttached r).get name
  | plain v => .error (.missingAttribute v.typeName name)

def subject : Record → Except Failure Value :=
  field "subject_name" (fun c => return .text (← Certificate.showName c.subject)) (·.subject)

def issuer : Record → Except Failure Value :=
  field "issuer_name" (fun c => return .text (← Certificate.showName c.issuer)) (·.issuer)

def serial : Record → Except Failure Value :=
  field "serial_number" (fun c => return .int c.serial) (·.serial)

def bound (m? : Option Moment) : Except Failure Value := do
  return .time (.universal (← Certificate.showBound m?))

def notBefore : Record → Except Failure Value :=
  field "not_valid_before" (fun c => bound c.notBefore?) (·.notBefore)

def notAfter : Record → Except Failure Value :=
  field "not_valid_after" (fun c => bound c.notAfter?) (·.notAfter)

def checkValidity (now : Timestamp) : Record → Except Failure Unit
  | certificate data => do (← data.read).checkValidity now
  | attached r =>
    match r.check with
    | .passes => .ok ()
    | .fails f _ => .error f
    | .missing => .error (.missingAttribute "Record" "check_validity")
  | plain v => .error (.missingAttribute v.typeName "check_validity")

end Record
end CertGate
