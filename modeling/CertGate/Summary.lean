import CertGate.Record
import CertGate.Value.Show

/-!
# The summary of a record

`Summary.ofRecord` lists what a record tells about its certificate: subject and issuer as texts, the
serial number in hexadecimal, the bounds of the validity in universal time. Only the subject has to
be there; a field that is missing is left out, a serial number that is missing is null.
-/

namespace CertGate.Summary

def isMissing (f : Failure) : Bool := f.kind = .attribute || f.kind = .key

/-- A field of a record by name; a mapping has its keys for fields. -/
def field (name : String) (reader : Record → Except Failure Value) (r : Record) :
    Except Failure Value :=
  match r with
  | .plain (.mapping entries) =>
    match entries.lookup name with
    | some v => .ok v
    | none => .error (.missingKey (Failure.named name))
  | r => reader r

/-- A value as text, nothing as null. -/
def asText : Value → Value
  | .null => .null
  | v => .text v.toText

def universalText (m : Moment) : String := m.isoText ++ "Z"

/-- A time in universal time. A text passes as it is, and what is not given is null. -/
def asTime (v : Value) : Except Failure Value :=
  if !v.isGiven then .ok .null
  else match v with
    | .text s => .ok (.text s)
    | .time t =>
      match t.toUniversal? with
      | some m => .ok (.text (universalText m))
      | none => .error .outsideCalendar
    | v => .error (.missingAttribute v.typeName "utcoffset")

/-- A number in hexadecimal. A time has no digits and stands for the name of the form. -/
def asHex : Value → Except Failure Value
  | .null => .ok .null
  | .int n => .ok (.text (Text.hexText n))
  | .bool b => .ok (.text (Text.hexText (if b then 1 else 0)))
  | .time _ => .ok (.text "x")
  | .text _ => .error (.noHexForm .value "str")
  | .decimal _ => .error (.noHexForm .value "float")
  | v => .error (.noHexForm .type v.typeName)

def optional (name : String) (value : Except Failure Value)
    (shown : Value → Except Failure Value) : Except Failure (List (String × Value)) :=
  match value with
  | .ok v => return [(name, ← shown v)]
  | .error f => if isMissing f then .ok [] else .error f

/-- The serial number, null when the record has no such attribute. -/
def serial (r : Record) : Except Failure Value :=
  match r.serial with
  | .ok v => asHex v
  | .error f => if f.kind = .attribute then .ok .null else .error f

def blank : List (String × Value) := [
  ("subject", .text ""), ("issuer", .text ""), ("not_valid_before", .null),
  ("not_valid_after", .null)]

def ofRecord (r : Record) : Except Failure (List (String × Value)) :=
  match r with
  | .plain .null => .ok blank
  | r => do
    let subject ← field "subject_name" Record.subject r
    let issuer ← optional "issuer" (field "issuer_name" Record.issuer r) (pure ∘ asText)
    let number ← serial r
    let notBefore ←
      optional "not_valid_before" (field "not_valid_before" Record.notBefore r) asTime
    let notAfter ← optional "not_valid_after" (field "not_valid_after" Record.notAfter r) asTime
    return ("subject", asText subject) :: issuer ++ ("serial_number", number) :: notBefore ++
      notAfter

end CertGate.Summary
