import CertGate.Gate.Verdict

/-!
# The gate

A gate starts without a configuration, gets one once, and decides requests until it is closed; a
closed gate stays closed and keeps the configuration it had. A start that fails leaves the gate as
it was, so that another may follow.

The configuration and the phase of a gate are kept apart, and it is the operations that keep them in
step.
-/

namespace CertGate

inductive Phase
  | uninitialized
  | ready
  | shutDown
  deriving DecidableEq, Repr

/-- A gate: the configuration it has, if any, and its phase. -/
structure Gate where
  config? : Option Config
  phase : Phase

namespace Phase

def name : Phase → String
  | uninitialized => "uninitialized"
  | ready => "ready"
  | shutDown => "shut_down"

end Phase

namespace Gate

def uninitialized : Gate := ⟨none, .uninitialized⟩

def ready (c : Config) : Gate := ⟨some c, .ready⟩

theorem ready_inj {c c' : Config} : ready c = ready c' ↔ c = c' := by simp [ready]

/-- A gate that has its configuration from the beginning, or has none yet. -/
def ofConfig? : Option Config → Gate
  | none => uninitialized
  | some c => ready c

def stateName (g : Gate) : String := g.phase.name

/-- The gate after a start, with what the start amounts to. -/
def start (g : Gate) (s : Settings) (provider : Value) (o : StartOptions) (tally : Tally) :
    (Logged Config × Gate) × Tally :=
  match g.phase with
  | .uninitialized =>
    let (r, tally) := configure s provider o tally
    match r.result with
    | .ok c => ((r, { config? := some c, phase := .ready }), tally)
    | .error _ => ((r, g), tally)
  | _ => ((.fail (.alreadyStarted g.stateName), g), tally)

def evaluate (g : Gate) (path : Value) (chain : Chain) (now : Timestamp) : Logged Verdict :=
  match g.phase, g.config? with
  | .ready, some c => verdict c path chain now
  | .ready, none => .fail (.missingAttribute "NoneType" "enforce")
  | _, _ => .fail (.notReady g.stateName)

def close (g : Gate) : Gate := { g with phase := .shutDown }

/-- Why a field of the configuration of a gate cannot be changed. -/
def assignFailure (g : Gate) (name : String) : Failure :=
  match g.config? with
  | none => .missingAttribute "NoneType" name
  | some _ => .frozenField name

end Gate
end CertGate
