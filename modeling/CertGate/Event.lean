import CertGate.Failure

/-!
# The audit trail

What the gate does is written down as a list of `Event`s. An event has a level, a source and a text;
a rejection says why.

`Logged` is what an operation of the gate amounts to: the events it writes, and its result or
failure. A failure ends the operation, and the events written so far stay.
-/

namespace CertGate

inductive Level
  | debug
  | info
  | warning
  deriving DecidableEq, Repr

inductive Source
  | gate
  | guard
  deriving DecidableEq, Repr

inductive Rejection
  | noCertificate
  | notValid (cause : Failure)
  | unreadableCertificate (cause : Failure)
  | unreadableSubject (cause : Failure)
  | subjectDiffers (subject part : String)
  deriving DecidableEq, Repr

/-- An entry of the audit trail. -/
inductive Event
  | starting
  | enforcing (flag : Bool)
  | subjectNeeds (part : String)
  | enforcingPath (path : String)
  | pathMatched (path start : String)
  | enforcingOn (path : String)
  | subjectContains (subject part : String)
  | accepted
  | rejected (why : Rejection)
  | forbidden (method path : String)
  deriving DecidableEq, Repr

namespace Rejection

/-- The reason of a rejection, failures in it put into words by `describe`. -/
def textWith (describe : Failure → String) : Rejection → String
  | noCertificate => "no client certificate presented"
  | notValid cause => describe cause
  | unreadableCertificate cause => "unreadable client certificate: " ++ describe cause
  | unreadableSubject cause => "unreadable certificate subject: " ++ describe cause
  | subjectDiffers subject part => "cert " ++ subject ++ " does not contain " ++ part

end Rejection

namespace Event

/-- What cannot be read is a warning; a decision of the gate is information. -/
def level : Event → Level
  | enforcing _ => .info
  | rejected (.unreadableCertificate _) | rejected (.unreadableSubject _) => .warning
  | rejected _ => .info
  | _ => .debug

/-- Only the answer to a request is not written by the gate itself. -/
def source : Event → Source
  | forbidden .. => .guard
  | _ => .gate

def rejectedMark : String := "X509 rejected: "

def textWith (describe : Failure → String) : Event → String
  | starting => "Initializing X509 gate"
  | enforcing flag => "Enforcing X509 authentication: " ++ (if flag then "True" else "False")
  | subjectNeeds part => "Cert must contain: " ++ part
  | enforcingPath path => "Enforcing path: " ++ path
  | pathMatched path start => "Path " ++ path ++ " matched " ++ start
  | enforcingOn path => "Enforcing X509 on " ++ path
  | subjectContains subject part => "Cert " ++ subject ++ " contains " ++ part
  | accepted => "Cert is valid"
  | rejected why => rejectedMark ++ why.textWith describe
  | forbidden method path => "Rejecting " ++ method ++ " " ++ path

def text : Event → String := textWith Failure.message

end Event

/-- The events that an operation writes, and its result. -/
structure Logged (α : Type) where
  log : List Event
  result : Except Failure α

namespace Logged

def ofResult {α : Type} (r : Except Failure α) : Logged α := ⟨[], r⟩

def tell (e : Event) : Logged Unit := ⟨[e], .ok ()⟩

def fail {α : Type} (f : Failure) : Logged α := ⟨[], .error f⟩

def bind {α β : Type} (m : Logged α) (next : α → Logged β) : Logged β :=
  match m.result with
  | .ok a => ⟨m.log ++ (next a).log, (next a).result⟩
  | .error f => ⟨m.log, .error f⟩

instance : Monad Logged where
  pure a := ⟨[], .ok a⟩
  bind := bind

instance : MonadLift (Except Failure) Logged := ⟨ofResult⟩

def mapFailure {α : Type} (change : Failure → Failure) (m : Logged α) : Logged α :=
  ⟨m.log, m.result.mapError change⟩

theorem bind_eq_of_ok {α β : Type} {m : Logged α} {a : α} (h : m.result = .ok a)
    (next : α → Logged β) : m >>= next = ⟨m.log ++ (next a).log, (next a).result⟩ := by
  show bind m next = _
  simp [bind, h]

theorem bind_eq_of_error {α β : Type} {m : Logged α} {f : Failure} (h : m.result = .error f)
    (next : α → Logged β) : m >>= next = ⟨m.log, .error f⟩ := by
  show bind m next = _
  simp [bind, h]

end Logged
end CertGate
