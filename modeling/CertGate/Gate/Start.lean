import CertGate.Asking
import CertGate.Text.Pieces

/-!
# Starting the gate

A gate is configured once. Its provider is asked for the flag; only with enforcement on are the
other options looked at: what the subject has to contain, and the paths, each trimmed and put behind
the mount path. `configure` writes down what it finds, and reports a failure as
`Failure.startFailed`.
-/

namespace CertGate

/-- What a gate enforces. With null for `enforcedPaths` it is every path. -/
structure Config where
  enforce : Value
  certContains : Value
  enforcedPaths : Value

structure StartOptions where
  certContains : Value
  paths : Value
  mount : Value

namespace Config

def off : Config := ⟨.bool false, .null, .null⟩

def isEnforcing (c : Config) : Bool := c.enforce.isGiven

end Config

def mountedText (mount : Value) (path : String) : Except Failure Value :=
  match mount with
  | .text s => .ok (.text (s ++ path))
  | .octets _ => .error (.notAppendableToOctets "str")
  | .list _ => .error (.notConcatenable "list" "str")
  | .tuple _ => .error (.notConcatenable "tuple" "str")
  | .object o => Fault.result (o.plus (Text.quoted path))
  | v => .error (.notAddable v.typeName "str")

def mountedOctets (mount : Value) (path : List UInt8) : Except Failure Value :=
  match mount with
  | .octets bs => .ok (.octets (bs ++ path))
  | .text _ => .error (.notAppendable "bytes")
  | .list _ => .error (.notConcatenable "list" "bytes")
  | .tuple _ => .error (.notConcatenable "tuple" "bytes")
  | .object o => Fault.result (o.plus (showOctets path))
  | v => .error (.notAddable v.typeName "bytes")

/-- What is left of an entry, behind a mount path. -/
def mounted (mount : Value) : Trimmed → Except Failure Value
  | .text s => mountedText mount s
  | .octets bs => mountedOctets mount bs
  | .other behind _ => Fault.result behind

def mountedEntry (mount entry : Value) : Except Failure Value := do mounted mount (← entry.trim)

/-- The entries of a path option: the pieces of a text between commas, or the items. -/
def pathEntries : Value → Except Failure (List Value)
  | .text s => .ok ((Text.splitText ',' s).map .text)
  | v => v.items

/-- The mount path as it is put in front of paths: nothing unless it is given. -/
def mountOrNothing (mount : Value) : Value := if mount.isGiven then mount else .text ""

/-- The enforced paths of a path option. Each item of an object is put behind the mount path before
the next one is taken. -/
def enforcedPaths (paths mount : Value) : Except Failure (List Value) :=
  match paths with
  | .object o => o.steps.mapM fun step => Fault.result step >>= mountedEntry mount
  | v => do (← pathEntries v).mapM (mountedEntry mount)

/-- What is still to come of some items once paths have been made of them, up to the first of which none
can be made. -/
def stepsLeft (mount : Value) : List (Except Fault Value) → List (Except Fault Value)
  | [] => []
  | step :: rest =>
    match Fault.result step >>= mountedEntry mount with
    | .ok _ => stepsLeft mount rest
    | .error _ => rest

/-- A path option after enforced paths have been made of it. -/
def pathsLeft (paths mount : Value) : Value :=
  match paths with
  | .object o => .object (if o.isOnce then { o with steps := stepsLeft mount o.steps } else o)
  | v => v

def enforcingConfig (o : StartOptions) : Logged Config := do
  Logged.tell (.subjectNeeds o.certContains.toText)
  if o.paths.isNull then
    return ⟨.bool true, o.certContains, .null⟩
  else do
    let paths ← enforcedPaths o.paths (mountOrNothing o.mount)
    ⟨paths.map fun path => .enforcingPath path.toText, .ok ()⟩
    return ⟨.bool true, o.certContains, .list paths⟩

/-- The configuration that a provider and options give. -/
def configure (s : Settings) (provider : Value) (o : StartOptions) : Asking Config :=
  Asking.mapFailure (Failure.reportedAs .startFailed) do
    Logged.tell .starting
    let flag ← resolveFlag s provider
    Logged.tell (.enforcing flag)
    if flag then enforcingConfig o else return .off

end CertGate
