import CertGate.Deployment.EnvFile
import CertGate.Settings
import CertGate.Text.Pieces

/-!
# Deployments

A `Deployment` is what the application takes from its environment: keys and hosts of the server, the
mount path, and the options of the gate. A blank variable counts as not set for the mount path, the
subject, the paths and the header; a blank context path is a context path.
-/

namespace CertGate

/-- What an environment makes of the application. -/
structure Deployment where
  secretKey : String
  debug : Bool
  allowedHosts : List String
  mountPath : Value
  auth : Options
  logLevel : String

namespace Deployment

def variableNames : List String := [
  "DJANGO_SECRET_KEY", "DEBUG", "ALLOWED_HOSTS", "FORCE_SCRIPT_NAME", "X509_ENFORCE_POLICY",
  "X509_ENFORCE", "X509_CERT_CONTAINS", "X509_PATHS", "X509_CONTEXT_PATH", "X509_CERT_HEADER",
  "LOG_LEVEL"]

/-- A variable, or what holds without it. -/
def variableOr (env : EnvFile.Environment) (name default : String) : String :=
  (EnvFile.value? env name).getD default

def plain (env : EnvFile.Environment) (name : String) : Value :=
  match EnvFile.value? env name with
  | some v => .text v
  | none => .null

/-- A variable that counts as not set when it is blank. -/
def unlessBlank (env : EnvFile.Environment) (name : String) : Value :=
  match EnvFile.value? env name with
  | some v => if v.isEmpty then .null else .text v
  | none => .null

def authOf (env : EnvFile.Environment) : Options := [
  ("ENFORCE_POLICY", .text (variableOr env "X509_ENFORCE_POLICY" Options.defaultPolicy)),
  ("ENFORCE", .text (variableOr env "X509_ENFORCE" "0")),
  ("CERT_CONTAINS", unlessBlank env "X509_CERT_CONTAINS"),
  ("PATHS", unlessBlank env "X509_PATHS"),
  ("CONTEXT_PATH", plain env "X509_CONTEXT_PATH"),
  ("CERT_HEADER", unlessBlank env "X509_CERT_HEADER")]

def ofEnvironment (env : EnvFile.Environment) : Deployment where
  secretKey := variableOr env "DJANGO_SECRET_KEY" "dev-secret"
  debug := variableOr env "DEBUG" "1" == "1"
  allowedHosts := Text.splitText ',' (variableOr env "ALLOWED_HOSTS" "*")
  mountPath := unlessBlank env "FORCE_SCRIPT_NAME"
  auth := authOf env
  logLevel := variableOr env "LOG_LEVEL" "INFO"

/-- What the gate sees of a deployment. -/
def settings (d : Deployment) (env : EnvFile.Environment)
    (library : String → Except Failure Value) : Settings :=
  ⟨some (.mapping d.auth), d.mountPath, env, library⟩

def texts (ss : List String) : Value := .list (ss.map .text)

def entries (d : Deployment) : List (String × Value) := [
  ("SECRET_KEY", .text d.secretKey),
  ("DEBUG", .bool d.debug),
  ("ALLOWED_HOSTS", texts d.allowedHosts),
  ("FORCE_SCRIPT_NAME", d.mountPath),
  ("X509_AUTH", .mapping d.auth),
  ("LOG_LEVEL", .text d.logLevel)]

end Deployment
end CertGate
