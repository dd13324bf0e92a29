import CertGate.Text.Part
import CertGate.Text.Pieces

/-!
# New environment files

`EnvFile.template` is a file that names every variable, the secret key and the flag filled in and
the others blank or at their defaults. `EnvFile.fill` puts a value behind a name.
-/

namespace CertGate.EnvFile

def templateLines (secret : String) (enforce : Bool) : List String := [
  "",
  "DJANGO_SECRET_KEY=" ++ secret,
  "DEBUG=1",
  "ALLOWED_HOSTS=*",
  "",
  "# Mount path of the application, prepended to every X509_PATHS entry",
  "FORCE_SCRIPT_NAME=",
  "",
  "X509_ENFORCE_POLICY=x509auth.policy.SettingsEnforcementPolicy",
  "X509_ENFORCE=" ++ (if enforce then "1" else "0"),
  "X509_CERT_CONTAINS=",
  "X509_PATHS=",
  "X509_CONTEXT_PATH=",
  "X509_CERT_HEADER=",
  "",
  "LOG_LEVEL=INFO",
  ""]

def template (secret : String) (enforce : Bool) : String :=
  Text.joinTexts '\n' (templateLines secret enforce)

/-- A line with a value behind its name, if it is the line of that name. -/
def fillLine (name value line : String) : String :=
  if Text.startsText (name ++ "=") line then name ++ "=" ++ value else line

def fill (name value file : String) : String :=
  Text.joinTexts '\n' ((Text.splitText '\n' file).map (fillLine name value))

end CertGate.EnvFile
