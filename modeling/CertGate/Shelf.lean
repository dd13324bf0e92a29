import CertGate.Guard

/-!
# Records that are kept

A record that a component of the server attaches may come with many requests, and it keeps the certificate that
has been read from its data; a failure to read it is not kept. Here the records in use stand on a `Shelf`, and a
request names those that are attached to it by their places. `Keeping` is an operation that reads from a shelf and
leaves on it what it has read; on records that nobody has read before it amounts to the operation of the same name
on records that keep nothing.

* `Keeping.certificate` : the certificate of a record, read once;
* `Keeping.checkValidity`, `Keeping.subject`, `Keeping.accepts`, `Keeping.evaluate` : the decision on a request;
* `Guard.handle` : what the guard answers to one request;
* `Guard.serve`, `Guard.run` : requests one after the other, from a guard that settings build.
-/

namespace CertGate

/-- A record, with the certificate that has been read from it. -/
structure Kept where
  record : Record
  read? : Option Certificate

/-- The records in use, each at its place. -/
abbrev Shelf := List Kept

def Shelf.of (records : List Record) : Shelf := records.map fun r => ⟨r, none⟩

def Keeping (α : Type) := Shelf → Logged α × Shelf

namespace Keeping
variable {α β : Type}

def ofLogged (m : Logged α) : Keeping α := fun shelf => (m, shelf)

/-- One operation and then another that depends on its result. What the first has read stays, however it ends. -/
def bind (m : Keeping α) (next : α → Keeping β) : Keeping β := fun shelf =>
  match m shelf with
  | (⟨log, .ok a⟩, shelf) =>
    let (r, shelf) := next a shelf
    (⟨log ++ r.log, r.result⟩, shelf)
  | (⟨log, .error f⟩, shelf) => (⟨log, .error f⟩, shelf)

instance : Monad Keeping where
  pure a := ofLogged (pure a)
  bind := bind

instance : MonadLift Logged Keeping := ⟨ofLogged⟩

instance : MonadLift (Except Failure) Keeping := ⟨fun r => ofLogged (.ofResult r)⟩

def attempt (m : Keeping α) : Keeping (Except Failure α) := fun shelf =>
  let (r, shelf) := m shelf
  (⟨r.log, .ok r.result⟩, shelf)

def recordAt (place : Nat) : Keeping Record := fun shelf =>
  (pure (shelf[place]?.elim default Kept.record), shelf)

/-- New records at the end of the shelf, and their places. -/
def put (records : List Record) : Keeping (List Nat) := fun shelf =>
  (pure (List.range' shelf.length records.length), shelf ++ Shelf.of records)

/-- The certificate at a place, read from its data unless it is there already. -/
def certificate (place : Nat) (data : CertificateData) : Keeping Certificate := fun shelf =>
  match shelf[place]?.bind Kept.read? with
  | some c => (pure c, shelf)
  | none =>
    match data.read with
    | .ok c => (pure c, shelf.modify place fun k => { k with read? := some c })
    | .error f => (.fail f, shelf)

def bound (place : Nat) (data : CertificateData) (which? : Certificate → Option Moment) : Keeping Moment := do
  Certificate.showBound (which? (← certificate place data))

def checkValidity (now : Timestamp) (place : Nat) : Keeping Unit := do
  match ← recordAt place with
  | .certificate data =>
    let start ← bound place data (·.notBefore?)
    match now.rank? with
    | none => Logged.fail .incomparableTimes
    | some n =>
      -- the failures show bounds that are read once more
      if n < start.rank then Logged.fail (.tooEarly (← bound place data (·.notBefore?)))
      else
        let finish ← bound place data (·.notAfter?)
        if (finish.rank : Int) < n then Logged.fail (.tooLate (← bound place data (·.notAfter?)))
        else return ()
  | r => r.checkValidity now

def subject (place : Nat) : Keeping Value := do
  match ← recordAt place with
  | .certificate data => return .text (← Certificate.showName (← certificate place data).subject)
  | r => r.subject

/-- Whether a subject that has been looked at contains what is asked for. -/
def subjectJudged (part : Value) : Except Failure Value → Logged Bool
  | .error f => rejectFor (.unreadableSubject f)
  | .ok subject => do
    if ← Value.isIn part subject then
      Logged.tell (.subjectContains subject.toText part.toText)
      return true
    else rejectFor (.subjectDiffers subject.toText part.toText)

def accepts (c : Config) (places? : Option (List Nat)) (now : Timestamp) : Keeping Bool :=
  match places?.bind List.head? with
  | none => rejectFor .noCertificate
  | some leaf => do
    match ← attempt (checkValidity now leaf) with
    | .error f => rejectFor (if f.isValidity then .notValid f else .unreadableCertificate f)
    | .ok () =>
      if c.certContains.isNull then return true
      else subjectJudged c.certContains (← attempt (subject leaf))

def verdict (c : Config) (path : Value) (places? : Option (List Nat)) (now : Timestamp) : Keeping Verdict := do
  if !c.isEnforcing then return .forward
  if !(← inScope c path) then return .forward
  Logged.tell (.enforcingOn path.toText)
  if ← accepts c places? now then
    Logged.tell .accepted
    return .forward
  else return .reject

def evaluate (g : Gate) (path : Value) (places? : Option (List Nat)) (now : Timestamp) : Keeping Verdict :=
  match g.phase, g.config? with
  | .ready, some c => verdict c path places? now
  | .ready, none => Logged.fail (.missingAttribute "NoneType" "enforce")
  | _, _ => Logged.fail (.notReady g.stateName)

end Keeping

/-- A request at its time. The chain that is attached to it may be of records in use, of which there are `n`. -/
structure Visit (n : Nat) where
  request : Request
  held? : Option (List (Fin n))
  now : Timestamp

namespace Visit
variable {n : Nat}

/-- The places of the chain. Records are made for it unless they are in use already. -/
def places? (header : Value) (v : Visit n) : Keeping (Option (List Nat)) :=
  match v.held? with
  | some places => return some (places.map Fin.val)
  | none => do
    match ← v.request.chain? header with
    | none => return none
    | some records => return some (← Keeping.put records)

/-- The request with records of its own, made of the same data. -/
def alone {pool : List Record} (v : Visit pool.length) : Request :=
  match v.held? with
  | some places => { v.request with attached := .records (places.map pool.get) }
  | none => v.request

end Visit

namespace Guard
variable {n : Nat}

def handle (g : Guard) (v : Visit n) : Keeping (Option TextAnswer) := do
  let places? ← v.places? g.header
  match ← Keeping.evaluate g.gate (.text v.request.path) places? v.now with
  | .forward => return none
  | .reject => do
    Logged.tell (.forbidden v.request.verb v.request.path)
    return some refusal

/-- What the guard answers to requests one after the other, with what it writes down for each. -/
def serve (g : Guard) : List (Visit n) → Shelf → List (Logged (Option TextAnswer))
  | [], _ => []
  | v :: visits, shelf =>
    let (r, shelf) := g.handle v shelf
    r :: g.serve visits shelf

def run (s : Settings) (pool : List Record) (visits : List (Visit pool.length)) :
    Asking (List (Logged (Option TextAnswer))) := do
  let g ← build s
  return g.serve visits (.of pool)

end Guard
end CertGate
