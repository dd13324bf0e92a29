import CertGate.Command.Arguments
import CertGate.Command.Directory
import CertGate.Command.Report
import CertGate.Deployment.EnvFile.Template
import CertGate.Guard

/-!
# Commands

The command line knows three commands: `check` lists the advice on the settings, `x509_status`
prints the configuration that a guard would have, and `generate_env` writes an environment file.
Each of the last two looks at the advice first and goes on only if none of it is an error. All else is
left to the `Framework`.

A `Run` is what a command prints and how it ends; `Command.run` is the run of a plan.
-/

namespace CertGate.Command

inductive Ending
  /-- It is done, or it has reported why not. -/
  | exit (code : Nat)
  /-- Its arguments are not understood. -/
  | usage
  | failed (f : Failure)

structure Run where
  out : String
  err : String
  ending : Ending

/-- What the framework around the application does of its own. -/
structure Framework where
  /-- The kinds of checks there are, for an application or a deployment. -/
  tags : Bool → List String
  /-- Whether the parts, kinds and connections that a check names are known. -/
  allows : CheckScope → Except Failure Unit
  advice : CheckScope → List Advice
  other : List String → Run

structure Context where
  settings : Settings
  framework : Framework
  /-- The secret key for a new environment file. -/
  fresh : String

namespace Run

def printing (out : String) : Run := ⟨out, "", .exit 0⟩

def stopping (err : String) : Run := ⟨"", err, .exit 1⟩

/-- A run that fails after it has reported something. A failure of the command's own is reported
too, unless failures are to be shown in full. -/
def failing (m : Manner) (err : String) (f : Failure) : Run :=
  if m.traceback then ⟨"", err, .failed f⟩
  else match f.kind with
    | .blocked => .stopping (err ++ withLineEnd f.message)
    | .command => .stopping (err ++ withLineEnd ("CommandError: " ++ f.message))
    | _ => ⟨"", err, .failed f⟩

/-- A run that has reported something, and then prints or fails. -/
def ofResult (m : Manner) (err : String) : Except Failure String → Run
  | .ok out => ⟨out, err, .exit 0⟩
  | .error f => failing m err f

end Run

/-- Whether texts are coloured, which cannot be both wanted and not wanted. -/
def paint (m : Manner) : Except Failure Paint :=
  if m.forceColor && m.noColor then .error .colorConflict else .ok m.forceColor

/-! ## Checking -/

/-- The advice that a check gives. The checks of the gate are of no kind. -/
def adviceIn (x : Context) (c : CheckScope) : Except Failure (List Advice) := do
  let own ← if c.tags.isEmpty then advice x.settings else pure []
  return own ++ x.framework.advice c

def checkTexts (x : Context) (m : Manner) (c : CheckScope) : Except Failure (String × String) := do
  let p ← paint m
  if c.listsTags then
    return (withLineEnd (Text.joinTexts '\n' (x.framework.tags c.isDeployment)), "")
  x.framework.allows c
  let all ← adviceIn x c
  let count := Report.count all
  if all.isEmpty then return (withLineEnd count, "")
  else if Report.isBlocking c.threshold all then
    .error (.blocked (Report.blockingText p all ++ "\n" ++ count))
  else return ("", withLineEnd (Report.text p all ++ "\n" ++ count))

def check (x : Context) (m : Manner) (c : CheckScope) : Run :=
  match checkTexts x m c with
  | .ok (out, err) => ⟨out, err, .exit 0⟩
  | .error f => .failing m "" f

/-- What a command reports before it runs, unless it is not to run at all. -/
def preliminary (s : Settings) (m : Manner) : Except Failure String := do
  let p ← paint m
  let all ← if m.skipsChecks then pure [] else advice s
  if all.isEmpty then return ""
  else if Report.isBlocking .error all then .error (.blocked (Report.blockingText p all))
  else return Report.text p all

/-- A command that runs unless the advice is against it. What it prints comes behind the advice. -/
def afterChecks {α : Type} (s : Settings) (m : Manner) (unchanged : α)
    (command : Except Failure String × α) : Run × α :=
  match preliminary s m with
  | .ok err => (.ofResult m err command.1, command.2)
  | .error f => (.failing m "" f, unchanged)

/-! ## Showing a configuration -/

def statusLines (c : Config) (header : Value) : List String :=
  if !c.isEnforcing then ["Enforce: " ++ c.enforce.toText]
  else
    let subject := if c.certContains.isGiven then c.certContains.toText else "(any subject)"
    let paths := match c.enforcedPaths.items with
      | .error _ => ["Enforced paths: (all)"]
      | .ok entries => "Enforced paths:" :: entries.map fun v => "  " ++ v.toText
    let forwarded :=
      if header.isGiven then ["Forwarded certificate header: " ++ header.toText] else []
    ["Enforce: " ++ c.enforce.toText, "Cert must contain: " ++ subject] ++ paths ++ forwarded

/-- The configuration in print. A failure to find one is reported as the command's own. -/
def status (s : Settings) : Asking String :=
  Asking.mapFailure (fun f => if f.isFatal then .commandFailed f else f) do
    let options ← s.options
    let config ← configureFrom s options
    let lines := statusLines config (← options.get "CERT_HEADER")
    return String.join (lines.map withLineEnd)

def showStatus (s : Settings) (m : Manner) (tally : Tally) : Run × Tally :=
  let (r, after) := status s tally
  afterChecks s m tally (r.result, after)

/-! ## Writing an environment file -/

/-- What is printed about a new environment file, never written over another one. -/
def generate (p : Paint) (fresh path : String) (enforce : Bool) (d : Directory) :
    Except Failure String × Directory :=
  if d.isTaken path then
    (.ok (withLineEnd (p.apply .warning (path ++ " already exists! Not overwriting."))), d)
  else match d.create path (EnvFile.template fresh enforce) with
    | .ok d =>
      (.ok (withLineEnd (p.apply .success ("✔ " ++ path ++ " file created successfully!"))), d)
    | .error f => (.error f, d)

/-! ## All commands -/

def usage : String := "usage: check | x509_status | generate_env [--path PATH] [--enforce]"

def run (x : Context) (plan : Plan) (d : Directory) (tally : Tally) : (Run × Directory) × Tally :=
  match plan with
  | .check m c => ((check x m c, d), tally)
  | .status m =>
    let (r, tally) := showStatus x.settings m tally
    ((r, d), tally)
  | .generate m path enforce =>
    (afterChecks x.settings m d (generate m.forceColor x.fresh path enforce d), tally)
  | .help | .version => ((.printing (withLineEnd usage), d), tally)
  | .misuse => ((⟨"", "", .usage⟩, d), tally)
  | .other words => ((x.framework.other words, d), tally)

/-- The runs of plans one after the other in one directory. -/
def runAll (x : Context) : List Plan → Directory → Tally → List Run × Directory
  | [], d, _ => ([], d)
  | plan :: plans, d, tally =>
    let ((r, d), tally) := run x plan d tally
    let (rs, d) := runAll x plans d tally
    (r :: rs, d)

end CertGate.Command
