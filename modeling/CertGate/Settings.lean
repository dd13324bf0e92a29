import CertGate.Value

/-!
# Settings and options

`Settings` are what the gate is deployed with: the options of its own, the mount path of the
application, the environment of the process, and what there is to import. `Settings.options` lays
the options over their defaults; the mount path takes the place of a context path that is not set.
-/

namespace CertGate

structure Settings where
  /-- The options of the gate; `none` when they are not set at all. -/
  auth? : Option Value
  mountPath : Value
  environment : List (String × String)
  /-- What is imported under a dotted name, or how its import fails. -/
  library : String → Except Failure Value

abbrev Options := List (String × Value)

def Settings.variable? (s : Settings) (name : String) : Option String :=
  s.environment.lookup name

namespace Options

def defaultPolicy : String := "x509auth.policy.SettingsEnforcementPolicy"

def defaults : Options := [
  ("ENFORCE_POLICY", .text defaultPolicy), ("ENFORCE", .bool false), ("CERT_CONTAINS", .null),
  ("PATHS", .null), ("CONTEXT_PATH", .null), ("CERT_HEADER", .null)]

/-- The options with one of them set; a new name goes to the end. -/
def set (name : String) (v : Value) : Options → Options
  | [] => [(name, v)]
  | (key, w) :: rest => if key = name then (key, v) :: rest else (key, w) :: set name v rest

/-- The options with others laid over them. -/
def merge (base later : Options) : Options := later.foldl (fun acc e => set e.1 e.2 acc) base

def get (options : Options) (name : String) : Except Failure Value :=
  match options.lookup name with
  | some v => .ok v
  | none => .error (.missingKey (Failure.named name))

theorem lookup_set_self (name : String) (v : Value) (options : Options) :
    (set name v options).lookup name = some v := by
  induction options with
  | nil => simp [set]
  | cons e rest ih =>
    obtain ⟨key, w⟩ := e
    by_cases h : key = name
    · simp [set, h]
    · have differ : (name == key) = false := beq_false_of_ne (Ne.symm h)
      simp [set, h, List.lookup_cons, differ, ih]

theorem lookup_set_of_ne {name other : String} (h : other ≠ name) (v : Value) (options : Options) :
    (set name v options).lookup other = options.lookup other := by
  have differ : (other == name) = false := beq_false_of_ne h
  induction options with
  | nil => simp [set, List.lookup_cons, differ]
  | cons e rest ih =>
    obtain ⟨key, w⟩ := e
    by_cases he : key = name
    · simp [set, he, List.lookup_cons, differ]
    · simp [set, he, List.lookup_cons, ih]

end Options

namespace Settings

/-- The options as they are written, a value that is not given counting as none. -/
def overrides (s : Settings) : Value :=
  match s.auth? with
  | some v => if v.isGiven then v else .mapping []
  | none => .mapping []

def mount (s : Settings) : Value := if s.mountPath.isGiven then s.mountPath else .text ""

def options (s : Settings) : Except Failure Options :=
  match s.overrides with
  | .mapping entries =>
    let merged := Options.defaults.merge entries
    match merged.lookup "CONTEXT_PATH" with
    | some .null => .ok (Options.set "CONTEXT_PATH" s.mount merged)
    | _ => .ok merged
  | v => .error (.optionsNotMapping v.typeName)

end Settings
end CertGate
