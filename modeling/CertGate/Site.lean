import CertGate.Guard
import CertGate.Site.Host
import CertGate.View

/-!
# The site

The whole application: one guard, and one page behind it. A request that names no host is turned
away before the guard. Whatever fails while a request is answered becomes an answer of its own, and
the audit trail up to the failure stays; a delivery that makes no request is not answered at all.
-/

namespace CertGate.Site

inductive Body
  | data (v : Value)
  | text (s : String)
  /-- A page of the server, whose text is not of interest here. -/
  | standard

structure Answer where
  status : Nat
  contentType : String
  allow? : Option String
  body : Body

def viewPath : String := "/api/x509/certificate"

def pageType : String := "text/html; charset=utf-8"

def dataType : String := "application/json"

/-- The methods that are named to a client. -/
def allowedMethods : String := "GET, HEAD, OPTIONS"

def standardPage (status : Nat) : Answer := ⟨status, pageType, none, .standard⟩

/-- The page behind the guard. -/
def page (s : Settings) (r : Request) : Except Failure Answer :=
  if r.pathInfo = viewPath then do
    let answer ← view s r
    return ⟨answer.status, dataType, some allowedMethods, .data answer.data⟩
  else .ok (standardPage 404)

def respond (g : Guard) (s : Settings) (now : Timestamp) (r : Request) : Logged Answer := do
  if !(← Host.isFit r) then return standardPage 400
  match ← g.check now r with
  | some refusal => return ⟨refusal.status, pageType, none, .text refusal.body⟩
  | none => page s r.spent

/-- The status of a failure: too large a query is the fault of the client. -/
def failureStatus (f : Failure) : Nat := if f.kind = .tooManyFields then 400 else 500

/-- What is written down about a request, and the answer to it. -/
def answer (g : Guard) (s : Settings) (now : Timestamp) (r : Request) : List Event × Answer :=
  let done := respond g s now r
  (done.log, match done.result with
    | .ok a => a
    | .error f => standardPage (failureStatus f))

/-- The request that is handed over. A mount path in the settings has to be a text. -/
def receive (s : Settings) (d : Delivery) : Except Failure Request :=
  match s.mountPath with
  | .null | .text _ => Request.receive s d
  | v => .error (.missingAttribute v.typeName "endswith")

end CertGate.Site
