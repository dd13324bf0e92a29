import CertGate.Gate
import CertGate.Gate.Policy
import CertGate.Request

/-!
# The guard

A `Guard` stands in front of every page: it takes the chain out of a request, asks its gate, and
answers a rejected request itself. It is built once from the settings; if that fails there is no
guard, and so no page either.
-/

namespace CertGate

/-- A gate with the name of the header that a proxy sets. -/
structure Guard where
  header : Value
  gate : Gate

structure TextAnswer where
  status : Nat
  body : String
  deriving DecidableEq, Repr

namespace Guard

def build (s : Settings) : Asking Guard := do
  let options ← s.options
  let header ← options.get "CERT_HEADER"
  let config ← configureFrom s options
  return ⟨header, .ready config⟩

/-- The answer to a rejected request, the same for every reason. -/
def refusal : TextAnswer := ⟨rejectionStatus, rejectionText⟩

/-- What the guard answers in place of the page, or nothing if the request may pass. -/
def check (g : Guard) (now : Timestamp) (r : Request) :
    Logged (Option TextAnswer) := do
  let chain ← r.chain? g.header
  match ← g.gate.evaluate (.text r.path) (.ofRecords? chain) now with
  | .forward => return none
  | .reject => do
    Logged.tell (.forbidden r.verb r.path)
    return some refusal

def close (g : Guard) : Guard := { g with gate := g.gate.close }

end Guard
end CertGate
