import CertGate.Gate.Verdict

/-!
# Policies by their names

A policy may be named by a dotted path. What such a path leads to is a matter of the settings, but
for the policies of this library, which are there before any settings are; `loadPolicy` makes a
provider of it.
-/

namespace CertGate

namespace Policy

/-- A policy of the library under its dotted name, with what comes of making one. -/
def entry (name : String) (made : Answer) : String × Value :=
  ("x509auth.policy." ++ name, .provider (.type ("<class 'x509auth.policy." ++ name ++ "'>") made
    (.fails (.missingArguments (name ++ ".check_enforce") ["self"]))))

/-- The policies of the library. One of them cannot be made without a flag. -/
def shipped : List (String × Value) := [
  entry "SettingsEnforcementPolicy" (.gives (.provider .fromSettings)),
  entry "EnvironmentEnforcementPolicy"
    (.gives (.provider (.fromEnvironment "X509_ENFORCE" (.bool false)))),
  entry "StaticEnforcementPolicy"
    (.fails (.missingArguments "StaticEnforcementPolicy.__init__" ["enforce"]))]

end Policy

/-- What a dotted path leads to. -/
def Settings.find (s : Settings) (path : String) : Except Failure Value :=
  match Policy.shipped.lookup path with
  | some v => .ok v
  | none => s.library path

/-- What a policy option stands for: what a dotted path leads to, or the value itself. -/
def importPolicy (s : Settings) : Value → Except Failure Value
  | .text path =>
    match s.find path with
    | .error f => .error (if f.isImport then .policyNotImported path f else f)
    | found => found
  | v => .ok v

/-- The provider that a policy stands for: of a type one is made. -/
def makePolicy : Value → Except Failure Value
  | .provider (.type shown made _) =>
    match made with
    | .gives v => .ok v
    | .fails f => .error (f.reportedAs (.policyNotCreated shown))
  | v => .ok v

def loadPolicy (s : Settings) (policy : Value) : Except Failure Value := do
  makePolicy (← importPolicy s policy)

/-- Whether a loaded policy is a plain function, to be called for the flag. -/
def Value.isCallable : Value → Bool
  | .provider (.callable ..) | .provider (.function ..) | .provider (.type ..) => true
  | _ => false

def configureFrom (s : Settings) (options : Options) : Asking Config := do
  let provider ← loadPolicy s (← options.get "ENFORCE_POLICY")
  let certContains ← options.get "CERT_CONTAINS"
  let paths ← options.get "PATHS"
  let mount ← options.get "CONTEXT_PATH"
  configure s provider ⟨certContains, paths, mount⟩

/-- The options in use: those given, or else those of the settings. -/
def optionsOr (s : Settings) (given : Options) : Except Failure Options :=
  if given.isEmpty then s.options else .ok given

end CertGate
