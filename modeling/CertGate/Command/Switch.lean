import CertGate.Text.Numeral
import CertGate.Text.Part

/-!
# Switches of commands

A `Switch` is what an argument that begins with a hyphen turns on or sets. It has names of one
letter behind one hyphen or longer ones behind two, and some switches take a value.

A `Word` is how an argument reads where some switches are known: by a name of a switch, by the
beginning of a long name while only one has it, or by a letter with its value right behind it. What
looks like a negative number or holds a space is an argument of the command itself.
-/

namespace CertGate

/-- How grave advice has to be for a command to fail. -/
inductive Threshold
  | debug
  | info
  | warning
  | error
  | critical
  deriving DecidableEq, Repr

def Threshold.names : List (String × Threshold) := [
  ("CRITICAL", .critical), ("ERROR", .error), ("WARNING", .warning), ("INFO", .info),
  ("DEBUG", .debug)]

inductive Switch
  | help
  | version
  | verbosity
  | settings
  | modulePath
  | traceback
  | noColor
  | forceColor
  | skipChecks
  | tag
  | listTags
  | deploy
  | failLevel
  | database
  | path
  | enforce
  deriving DecidableEq, Repr

namespace Switch

def names : Switch → List String
  | help => ["-h", "--help"]
  | version => ["--version"]
  | verbosity => ["-v", "--verbosity"]
  | settings => ["--settings"]
  | modulePath => ["--pythonpath"]
  | traceback => ["--traceback"]
  | noColor => ["--no-color"]
  | forceColor => ["--force-color"]
  | skipChecks => ["--skip-checks"]
  | tag => ["-t", "--tag"]
  | listTags => ["--list-tags"]
  | deploy => ["--deploy"]
  | failLevel => ["--fail-level"]
  | database => ["--database"]
  | path => ["--path"]
  | enforce => ["--enforce"]

def takesValue : Switch → Bool
  | verbosity | settings | modulePath | tag | failLevel | database | path => true
  | _ => false

def admits : Switch → String → Bool
  | verbosity, v => (Text.wholeNumber? v).any fun n => 0 ≤ n && n ≤ 3
  | failLevel, v => (Threshold.names.lookup v).isSome
  | _, _ => true

/-- The switches that every command knows. -/
def shared : List Switch :=
  [help, version, verbosity, settings, modulePath, traceback, noColor, forceColor]

def named? (known : List Switch) (name : String) : Option Switch :=
  known.find? fun s => name ∈ s.names

/-- The long names that begin with a text, with their switches. -/
def beginning (known : List Switch) (front : String) : List Switch :=
  known.flatMap fun s => (s.names.filter (Text.startsText front)).map fun _ => s

end Switch

/-- A value that is attached to a switch, behind a sign of equality or right behind the name. -/
structure Attached where
  bySign : Bool
  value : String
  deriving DecidableEq, Repr

inductive Word
  /-- An argument of the command itself, or the value of the switch in front of it. -/
  | plain (s : String)
  /-- Two hyphens alone, behind which there are no more switches. -/
  | divider
  /-- A switch by a short or a long name, with the value that is attached to it. -/
  | switch (s : Switch) (isShort : Bool) (attached? : Option Attached)
  /-- What looks like a switch and is none. -/
  | stray
  deriving DecidableEq, Repr

namespace Word

def isShortName (name : String) : Bool := !Text.startsText "--" name

/-- A text up to a sign of equality, and what stands behind it if there is one. -/
def cutAtEquals (s : String) : String × Option Attached :=
  let front := String.ofList (s.toList.takeWhile (· != '='))
  match s.toList.dropWhile (· != '=') with
  | [] => (front, none)
  | _ :: rest => (front, some ⟨true, String.ofList rest⟩)

/-- The ways to read an argument by a part of it. -/
def byPart (known : List Switch) (s : String) : List Word :=
  if isShortName s then
    match Switch.named? known (String.ofList (s.toList.take 2)) with
    | some w => [.switch w true (some ⟨false, String.ofList (s.toList.drop 2)⟩)]
    | none => []
  else
    let (front, value?) := cutAtEquals s
    (Switch.beginning known front).map fun w => .switch w false value?

/-- How an argument reads that may be a switch; `none` when several switches are meant. -/
def ofHyphened? (known : List Switch) (s : String) : Option Word :=
  let (front, value?) := cutAtEquals s
  match Switch.named? known s, value?, Switch.named? known front with
  | some w, _, _ => some (.switch w (isShortName s) none)
  | none, some v, some w => some (.switch w (isShortName front) (some v))
  | none, _, _ =>
    match byPart known s with
    | [w] => some w
    | [] => some (if Text.isNegativeNumeral s || ' ' ∈ s.toList then .plain s else .stray)
    | _ => none

def of? (known : List Switch) (s : String) : Option Word :=
  if Text.startsText "-" s && s != "-" then ofHyphened? known s else some (.plain s)

def all? (known : List Switch) : List String → Option (List Word)
  | [] => some []
  | s :: rest =>
    if s = "--" then some (.divider :: rest.map .plain)
    else do
      let w ← of? known s
      return w :: (← all? known rest)

end Word
end CertGate
