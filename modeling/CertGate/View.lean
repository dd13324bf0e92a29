import CertGate.Summary
import CertGate.View.Form

/-!
# The certificate view

A diagnostic page: `view` answers a request with the summary of the certificate that came with it
and the length of its chain. Without a certificate the answer is 404; a certificate that cannot be
read is answered with 400. A request for another form than the view has is refused before anything
else. Besides reading, a client may only ask what the view is.
-/

namespace CertGate

structure DataAnswer where
  status : Nat
  data : Value

namespace DataAnswer

def detail (status : Nat) (remark : String) : DataAnswer :=
  ⟨status, .mapping [("detail", .text remark)]⟩

def noCertificate : DataAnswer := detail 404 "No client certificate presented."

def unreadable : DataAnswer := detail 400 "Client certificate could not be read."

def notAllowed (method : String) : DataAnswer :=
  detail 405 ("Method \"" ++ method ++ "\" not allowed.")

/-- A value that cannot be put into the form of the answer. -/
def invalid (f : Failure) : DataAnswer := ⟨400, .list [.text f.message]⟩

def otherForm : Form.Refusal → DataAnswer
  | .unknownFormat => detail 404 "Not found."
  | .notAcceptable => detail 406 "Could not satisfy the request Accept header."

def purpose : String :=
  "Shows the leaf certificate the caller presented.\n" ++
  "Sits behind X509AuthMiddleware like every other view, so with enforcement\n" ++
  "on it only answers callers whose certificate was accepted."

def about : DataAnswer := ⟨200, .mapping [
  ("name", .text "Client Certificate"),
  ("description", .text purpose),
  ("renders", .list [.text "application/json"]),
  ("parses", .list [.text "application/json", .text "application/x-www-form-urlencoded",
    .text "multipart/form-data"])]⟩

end DataAnswer

def readingMethods : List String := ["GET", "HEAD"]

/-- The answer for a chain: what its first record tells, or that this cannot be read. -/
def summaryAnswer : List Record → Except Failure DataAnswer
  | [] => .ok .noCertificate
  | leaf :: rest =>
    match Summary.ofRecord leaf with
    | .ok fields =>
      .ok ⟨200, .mapping (fields ++ [("chain_length", .int (rest.length + 1))])⟩
    | .error f =>
      if f.isCertificate || f.kind = .attribute then .ok .unreadable
      else if f.kind = .validation then .ok (.invalid f)
      else .error f

/-- The answer to a method. -/
def answerTo (s : Settings) (r : Request) : Except Failure DataAnswer :=
  if r.verb = "OPTIONS" then .ok .about
  else if r.verb ∉ readingMethods then .ok (.notAllowed r.verb)
  else do
    let header ← (← s.options).get "CERT_HEADER"
    return ← summaryAnswer ((← r.chain? header).getD [])

/-- The answer of the view to a request. -/
def view (s : Settings) (r : Request) : Except Failure DataAnswer := do
  match ← Form.refusal? r with
  | some why => return .otherForm why
  | none => answerTo s r

end CertGate
