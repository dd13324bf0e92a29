import CertGate.Command.Switch

/-!
# Arguments of commands

A `Plan` is what a command line asks for; other commands than those of this application are a matter of
the framework. `CommandLine.of` goes through the words of a command line: a value follows its switch as
the next argument or is attached to it, and the arguments of the command itself stand together. What a
command does not understand is misuse, unless help was asked for before it went wrong.
-/

namespace CertGate

structure Manner where
  /-- Failures are shown in full. -/
  traceback : Bool
  noColor : Bool
  forceColor : Bool
  skipsChecks : Bool
  deriving DecidableEq, Repr

structure CheckScope where
  /-- The parts of the application that are looked at, all of them when there is none. -/
  labels : List String
  /-- The kinds of checks, all of them when there is none. -/
  tags : List String
  listsTags : Bool
  isDeployment : Bool
  threshold : Threshold
  databases : List String
  deriving DecidableEq, Repr

/-- What a command line asks for. -/
inductive Plan
  | check (m : Manner) (c : CheckScope)
  | status (m : Manner)
  | generate (m : Manner) (path : String) (enforce : Bool)
  | help
  | version
  /-- Arguments that a command does not understand. -/
  | misuse
  /-- A command of the framework, or of nobody. -/
  | other (words : List String)
  deriving DecidableEq, Repr

/-- A switch with its value, empty when it takes none. -/
abbrev Setting := Switch × String

/-- The arguments of a command itself: they stand together in one place. -/
inductive Labels
  | none
  | growing (ss : List String)
  | complete (ss : List String)

structure CommandLine where
  labels : Labels
  given : List Setting
  hasExcess : Bool

namespace Labels

def toList : Labels → List String
  | none => []
  | growing ss | complete ss => ss

/-- The arguments behind which something else stands. -/
def close : Labels → Labels
  | growing ss => complete ss
  | ls => ls

end Labels

namespace CommandLine

def start : CommandLine := ⟨.none, [], false⟩

/-- Some arguments of the command itself, in a row with those in front of them. -/
def label (ss : List String) (r : CommandLine) : CommandLine :=
  match r.labels with
  | .none => { r with labels := .growing ss }
  | .growing ts => { r with labels := .growing (ts ++ ss) }
  | .complete _ => { r with hasExcess := true }

/-- A switch that is turned on or set. Help is given at once; a value that does not fit ends the
reading. -/
def apply (r : CommandLine) (e : Setting) : Except Plan CommandLine :=
  match e.1 with
  | .help => .error .help
  | .version => .error .version
  | s =>
    if s.takesValue && !s.admits e.2 then .error .misuse
    else .ok { r with given := r.given ++ [e] }

structure Saying where
  settings : List Setting
  /-- The switch that takes the next argument. -/
  waiting? : Option Switch
  hasExcess : Bool

def alone (s : Switch) : Saying :=
  if s.takesValue then ⟨[], some s, false⟩ else ⟨[(s, "")], none, false⟩

/-- What is said by letters behind one hyphen, the first of which is the switch `s`. A value may
follow the last letter, behind a sign of equality or not. -/
def cluster? (known : List Switch) (s : Switch) (bySign : Bool) (cs : List Char) : Option Saying :=
  if s.takesValue then some ⟨[(s, String.ofList cs)], none, false⟩
  else if bySign then none
  else match cs with
    | [] | '-' :: _ => none
    | c :: rest =>
      let push (more : Saying) : Saying := { more with settings := (s, "") :: more.settings }
      match Switch.named? known (String.ofList ['-', c]), rest with
      | none, _ => some ⟨[(s, "")], none, true⟩
      | some next, [] => some (push (alone next))
      | some next, '=' :: rest => (cluster? known next true rest).map push
      | some next, d :: rest => (cluster? known next false (d :: rest)).map push
termination_by cs.length

/-- What a switch says with the value that is attached to it. -/
def saying? (known : List Switch) (s : Switch) (isShort : Bool) : Option Attached → Option Saying
  | none => some (alone s)
  | some a =>
    if isShort then cluster? known s a.bySign a.value.toList
    else if s.takesValue then some ⟨[(s, a.value)], none, false⟩
    else none

def applyAll (r : CommandLine) (es : List Setting) (hasExcess : Bool) : Except Plan CommandLine :=
  es.foldlM apply { r with labels := r.labels.close, hasExcess := r.hasExcess || hasExcess }

def read (known : List Switch) : CommandLine → List Word → Except Plan CommandLine
  | r, [] => .ok r
  | r, .plain s :: ws => read known (r.label [s]) ws
  | r, .divider :: ws => read known (r.label []) ws
  | r, .stray :: ws => do read known (← r.applyAll [] true) ws
  | r, .switch s isShort attached? :: ws =>
    match saying? known s isShort attached?, ws with
    | none, _ => .error .misuse
    | some ⟨es, none, excess⟩, ws => do read known (← r.applyAll es excess) ws
    | some ⟨es, some last, excess⟩, .plain v :: ws => do
      read known (← r.applyAll (es ++ [(last, v)]) excess) ws
    | some ⟨_, some _, _⟩, _ => .error .misuse

/-- The reading of arguments, where some switches are known; only some commands have arguments of
their own. -/
def of (known : List Switch) (hasLabels : Bool) (arguments : List String) :
    Except Plan CommandLine :=
  match Word.all? known arguments with
  | none => .error .misuse
  | some words => do
    let start := if hasLabels then start else { start with labels := .complete [] }
    let r ← read known start words
    if r.hasExcess then .error .misuse else .ok r

def values (r : CommandLine) (s : Switch) : List String :=
  r.given.filterMap fun e => if e.1 = s then some e.2 else none

def has (r : CommandLine) (s : Switch) : Bool := !(r.values s).isEmpty

/-- The last value of a switch, or what holds without it. -/
def valueOr (r : CommandLine) (s : Switch) (default : String) : String :=
  (r.values s).getLast?.getD default

def manner (r : CommandLine) : Manner :=
  ⟨r.has .traceback, r.has .noColor, r.has .forceColor, r.has .skipChecks⟩

def checkScope (r : CommandLine) : CheckScope where
  labels := r.labels.toList
  tags := r.values .tag
  listsTags := r.has .listTags
  isDeployment := r.has .deploy
  threshold := (Threshold.names.lookup (r.valueOr .failLevel "ERROR")).getD .error
  databases := r.values .database

end CommandLine

namespace Plan

def checkSwitches : List Switch :=
  Switch.shared ++ [.tag, .listTags, .deploy, .failLevel, .database]

/-- The switches of a command that checks before it runs. -/
def checkedSwitches : List Switch := Switch.shared ++ [.skipChecks]

def generateSwitches : List Switch := checkedSwitches ++ [.path, .enforce]

def ofReading (r : Except Plan CommandLine) (plan : CommandLine → Plan) : Plan :=
  match r with
  | .ok r => plan r
  | .error p => p

def ofArguments : List String → Plan
  | "check" :: arguments =>
    ofReading (CommandLine.of checkSwitches true arguments) fun r => .check r.manner r.checkScope
  | "x509_status" :: arguments =>
    ofReading (CommandLine.of checkedSwitches false arguments) fun r => .status r.manner
  | "generate_env" :: arguments =>
    ofReading (CommandLine.of generateSwitches false arguments) fun r =>
      .generate r.manner (r.valueOr .path ".env") (r.has .enforce)
  | words => .other words

end Plan
end CertGate
