import CertGate.Gate.Start
import CertGate.Record

/-!
# Verdicts

A request on an enforced path passes when the first record of its chain is inside its validity and
its subject contains the text that is asked for. Every other request on such a path is rejected, and
what goes wrong while a record is read is a reason to reject it, never a failure of the gate.

* `Chain` : the records of a request, the certificate of the client first;
* `inScope` : whether a path is enforced;
* `accepts` : whether a chain is accepted;
* `verdict` : the decision of a configuration.
-/

namespace CertGate

/-- What stands in the place of the records of a client: a list of them, something that gives them
in turn and once, or any other value. -/
inductive Chain
  | records (rs : List Record)
  | passing (steps : List (Except Fault Record))
  | value (v : Value)

inductive Verdict
  | forward
  | reject
  deriving DecidableEq, Repr

def rejectionStatus : Nat := 403

/-- The whole text of a rejection. Its reason is in the audit trail only. -/
def rejectionText : String := "X509 Authentication failure"

namespace Chain

def leaf : Chain → Except Failure (Option Record)
  | records rs => .ok rs.head?
  | passing _ => .error (.notSubscriptable "generator")
  | value v => if v.isGiven then do return (← v.first).map .plain else .ok none

/-- The chain after it has been gone through. -/
def spent : Chain → Chain
  | passing _ => passing []
  | value v => value v.spent
  | rs => rs

end Chain

def textBeginsItem (p : String) : Value → Except Failure Bool
  | .text start => .ok (Text.startsText start p)
  | v => .error (.badBeginnings v.typeName)

/-- Whether a text begins with an entry, or with one of a tuple. -/
def textBegins (p : String) : Value → Except Failure Bool
  | .text start => .ok (Text.startsText start p)
  | .tuple entries => anyPasses (textBeginsItem p) entries
  | v => .error (.badBeginning v.typeName)

def octetsBeginItem (p : List UInt8) : Value → Except Failure Bool
  | .octets start => .ok (start.isPrefixOf p)
  | v => .error (.octetsNeeded v.typeName)

def octetsBegin (p : List UInt8) : Value → Except Failure Bool
  | .octets start => .ok (start.isPrefixOf p)
  | .tuple entries => anyPasses (octetsBeginItem p) entries
  | v => .error (.badOctetBeginning v.typeName)

def Value.beginsWith (v entry : Value) : Except Failure Bool :=
  match v with
  | .text p => textBegins p entry
  | .octets p => octetsBegin p entry
  | .object o => Fault.result (o.begins entry.show)
  | v => .error (.missingAttribute v.typeName "startswith")

/-- What a gate enforces, one entry after the other. An object may fail to give the next one. -/
def Config.entries (c : Config) : Except Failure (List (Except Failure Value)) :=
  match c.enforcedPaths with
  | .object o => .ok (o.steps.map Fault.result)
  | v => do return (← v.items).map .ok

/-- Whether a path begins with one of some entries; the first such entry is written down. -/
def anyBegins (path : Value) : List (Except Failure Value) → Logged Bool
  | [] => return false
  | step :: rest => do
    let entry ← step
    if ← path.beginsWith entry then
      Logged.tell (.pathMatched path.toText entry.toText)
      return true
    else anyBegins path rest

def inScope (c : Config) (path : Value) : Logged Bool :=
  if c.enforcedPaths.isNull then return true
  else do anyBegins path (← c.entries)

def rejectFor (why : Rejection) : Logged Bool := do
  Logged.tell (.rejected why)
  return false

def subjectAccepted (part : Value) (leaf : Record) : Logged Bool :=
  if part.isNull then return true
  else match leaf.subject with
    | .error f => rejectFor (.unreadableSubject f)
    | .ok subject => do
      if ← Value.isIn part subject then
        Logged.tell (.subjectContains subject.toText part.toText)
        return true
      else rejectFor (.subjectDiffers subject.toText part.toText)

def accepts (c : Config) (chain : Chain) (now : Timestamp) : Logged Bool := do
  match ← chain.leaf with
  | none => rejectFor .noCertificate
  | some leaf =>
    match leaf.checkValidity now with
    | .error f =>
      rejectFor (if f.isValidity then .notValid f else .unreadableCertificate f)
    | .ok () => subjectAccepted c.certContains leaf

/-- The decision on a path with a chain at some time. -/
def verdict (c : Config) (path : Value) (chain : Chain) (now : Timestamp) : Logged Verdict := do
  if !c.isEnforcing then return .forward
  if !(← inScope c path) then return .forward
  Logged.tell (.enforcingOn path.toText)
  if ← accepts c chain now then
    Logged.tell .accepted
    return .forward
  else return .reject

end CertGate
