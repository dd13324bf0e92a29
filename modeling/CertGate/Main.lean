import CertGate.Command
import CertGate.Deployment

/-!
# The command line

Reads the environment and the file `.env`, runs the command that the arguments name, and writes the
file that the command has made.
-/

namespace CertGate

def readIfThere (path : String) : IO (Option String) := do
  try return some (← IO.FS.readFile path) catch _ => return none

def readVariables (names : List String) : IO EnvFile.Environment :=
  names.filterMapM fun name => do return (← IO.getEnv name).map (name, ·)

def isFolder (path : String) : IO Bool := do
  try return ← (← IO.FS.realPath path).isDir catch _ => return false

def isThere (path : String) : IO Bool := do
  try discard (IO.FS.realPath path); return true catch _ => return false

/-- The paths of the spots that a path goes through. -/
def waypoints (path : String) : List String :=
  let steps := Spot.steps path
  (List.range (steps.length + 1)).map fun n =>
    ((steps.take n).foldl Spot.step (Spot.origin path)).path

/-- The directory as far as a path leads into it. Of the files on the way it is enough to know that
they are there. -/
def readDirectory (path : String) : IO Directory := do
  let found ← (waypoints path).filterM isThere
  let folders ← found.filterM isFolder
  return ⟨(found.filter (· ∉ folders)).map (·, ""), folders⟩

def newSecret : IO String := do
  let octets := (← IO.getRandomBytes 32).toList
  return String.ofList (octets.flatMap fun b => Text.padded 16 2 b.toNat)

def writeNew (before after : Directory) : IO Unit :=
  (after.files.drop before.files.length).forM fun f => IO.FS.writeFile f.1 f.2

/-- Besides the policies of the library there is nothing to import. -/
def nothingElse (path : String) : Except Failure Value :=
  .error (.raised .moduleNotFound ("No module named " ++ Text.quoted path))

def bareFramework : Command.Framework where
  tags _ := []
  allows _ := .ok ()
  advice _ := []
  other _ := ⟨"", "", .usage⟩

/-- The run of a command line, to its exit code. -/
def runArguments (arguments : List String) : IO UInt32 := do
  let file := (← readIfThere ".env").getD ""
  let set ← readVariables (Deployment.variableNames ++ EnvFile.mentioned file)
  let env ← IO.ofExcept ((EnvFile.load set file).mapError Failure.message)
  let deployment := Deployment.ofEnvironment env
  let plan := Plan.ofArguments arguments
  let directory ← match plan with
    | .generate _ path _ => readDirectory path
    | _ => pure ⟨[], []⟩
  let context : Command.Context :=
    ⟨deployment.settings env nothingElse, bareFramework, ← newSecret⟩
  let ((run, after), _) := Command.run context plan directory []
  writeNew directory after
  IO.print run.out
  IO.eprint run.err
  match run.ending with
  | .exit code => return code.toUInt32
  | .usage =>
    IO.eprintln Command.usage
    return 2
  | .failed f =>
    IO.eprintln f.message
    return 1

end CertGate

def main (arguments : List String) : IO UInt32 := CertGate.runArguments arguments
