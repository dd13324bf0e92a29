import CertGate.Request
import CertGate.Text.LowerCase

/-!
# The host of a request

A proxy names the host that the client has asked for; without a proxy the client does, and without
either the host is the server itself. `Host.isFit` says whether a request names a host at all: a
name of letters, digits, points and hyphens or an address in square brackets, perhaps with a port.
-/

namespace CertGate.Host

/-- A variable that the server always sets. -/
def needed (vars : List (String × Value)) (name : String) : Except Failure Value :=
  match vars.lookup name with
  | some v => .ok v
  | none => .error (.missingKey (Failure.named name))

/-- Whether the proxy next to the client was reached over an encrypted connection. -/
def isEncrypted (vars : List (String × Value)) : Except Failure Bool :=
  match vars.lookup "HTTP_X_FORWARDED_PROTO" with
  | none | some .null => .ok false
  | some (.text s) => .ok (Text.trim (String.ofList (s.toList.takeWhile (· != ','))) = "https")
  | some v => .error (.missingAttribute v.typeName "split")

/-- The server itself, with its port unless it is the usual one. -/
def server (vars : List (String × Value)) : Except Failure Value := do
  let name ← needed vars "SERVER_NAME"
  let port := (← needed vars "SERVER_PORT").toText
  let usual := if ← isEncrypted vars then "443" else "80"
  return if port = usual then name else .text (name.toText ++ ":" ++ port)

def given (vars : List (String × Value)) : Except Failure Value :=
  match (vars.lookup "HTTP_X_FORWARDED_HOST").or (vars.lookup "HTTP_HOST") with
  | some v => .ok v
  | none => server vars

def isNamePart (c : Char) : Bool := c.isLower || c.isDigit || c = '.' || c = '-'

def isHexDigit (c : Char) : Bool := c.isDigit || ('a' ≤ c && c ≤ 'f')

/-- Whether characters are an address of colons, points and hexadecimal digits. -/
def isAddress (cs : List Char) : Bool :=
  match cs.dropWhile isHexDigit with
  | ':' :: rest => !rest.isEmpty && rest.all fun c => isHexDigit c || c = '.' || c = ':'
  | _ => false

def isPort : List Char → Bool
  | [] => true
  | ':' :: digits => !digits.isEmpty && digits.all Char.isDigit
  | _ => false

/-- Whether a text in lower case is a host. The point that stands for the root is none. -/
def isHost (cs : List Char) : Bool :=
  match cs with
  | '[' :: cs =>
    match cs.dropWhile (· != ']') with
    | _ :: port => isAddress (cs.takeWhile (· != ']')) && isPort port
    | [] => false
  | cs =>
    let name := cs.takeWhile isNamePart
    !name.isEmpty && name != ['.'] && isPort (cs.dropWhile isNamePart)

def isFit (r : Request) : Except Failure Bool := do
  match ← given r.vars with
  | .text s => return isHost (Text.lower s).toList
  | v => .error (.missingAttribute v.typeName "lower")

end CertGate.Host
