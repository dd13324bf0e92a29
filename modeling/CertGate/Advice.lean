import CertGate.Gate.Policy

/-!
# Advice on the options

`advice` looks at the options before any gate is built and lists what is wrong with them, the policy
by its name alone. An error keeps commands from running, a warning does not.
-/

namespace CertGate

inductive Gravity
  | warning
  | error
  deriving DecidableEq, Repr

structure Advice where
  gravity : Gravity
  id : String
  text : String
  hint? : Option String
  deriving DecidableEq, Repr

namespace Advice

def notMapping (f : Failure) : Advice := ⟨.error, "x509auth.E002", f.message, none⟩

def noPolicy (f : Failure) : Advice :=
  ⟨.error, "x509auth.E001", "X509_AUTH['ENFORCE_POLICY'] cannot be imported: " ++ f.message, none⟩

/-- The paths are neither a text nor a list of texts. -/
def badPaths (paths : Value) : Advice :=
  ⟨.warning, "x509auth.W003",
    "X509_AUTH['PATHS'] must be a comma delimited string or a list of strings, got " ++ paths.show,
    none⟩

/-- A path that begins with no slash. -/
def relativePath (path : String) : Advice :=
  ⟨.warning, "x509auth.W001",
    "X509_AUTH['PATHS'] entry " ++ Text.quoted path ++ " does not start with '/'",
    some "Paths are matched as prefixes of the request path after the mount path."⟩

def badHeader (header : Value) : Advice :=
  ⟨.warning, "x509auth.W002",
    "X509_AUTH['CERT_HEADER'] " ++ header.show ++ " is not a request.META header key",
    some "Use the META form, e.g. HTTP_X_SSL_CLIENT_CERT."⟩

def onPolicy (s : Settings) : Value → Except Failure (List Advice)
  | .text path =>
    match s.find path with
    | .ok _ => .ok []
    | .error f => if f.isImport then .ok [noPolicy f] else .error f
  | _ => .ok []

/-- The texts of a list of values, if all of them are texts. -/
def texts? (vs : List Value) : Option (List String) := vs.mapM Value.text?

/-- The path entries of an option, if it is of a form that is understood. -/
def entries? : Value → Option (List String)
  | .null => some []
  | .text s => some (Text.splitText ',' s)
  | .list vs | .tuple vs => texts? vs
  | _ => none

def onEntry (entry : String) : List Advice :=
  let path := Text.trim entry
  if Text.startsText "/" path then [] else [relativePath path]

def onPaths (paths : Value) : List Advice :=
  match entries? paths with
  | none => [badPaths paths]
  | some entries => entries.flatMap onEntry

def onHeader (header : Value) : Except Failure (List Advice) :=
  if !header.isGiven then .ok []
  else do return if ← header.beginsWith (.text "HTTP_") then [] else [badHeader header]

def onOptions (s : Settings) (options : Options) : Except Failure (List Advice) := do
  let policy ← onPolicy s (← options.get "ENFORCE_POLICY")
  let paths ← options.get "PATHS"
  let header ← onHeader (← options.get "CERT_HEADER")
  return policy ++ onPaths paths ++ header

end Advice

/-- Advice on the settings. -/
def advice (s : Settings) : Except Failure (List Advice) :=
  match s.options with
  | .error f => .ok [Advice.notMapping f]
  | .ok options => Advice.onOptions s options

end CertGate
