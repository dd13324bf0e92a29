import CertGate.Gate.Verdict
import CertGate.Octets.Narrow
import CertGate.Settings
import CertGate.Text.UpperCase

/-!
# Requests and their chains

A server hands a request over as variables, in a `Delivery`. `Request.receive` makes a request of
them: its method in capitals, its path below the host with the mount path included, and the
variables with these paths filled in.

A request carries its chain in one of three ways: attached by a component of the server, in
variables of the server, or in a header that a trusted proxy sets. `Request.chain?` is the chain,
the certificate of the client first, or `none` without any.
-/

namespace CertGate

/-- What a server hands over for a request. -/
structure Delivery where
  /-- Variables and headers by their names. -/
  vars : List (String × Value)
  /-- What a component of the server has attached, nothing standing for no chain. -/
  attached : Chain

structure Request where
  /-- The method in capitals. -/
  verb : String
  /-- The path below the host, mount path included. -/
  path : String
  /-- The path below the mount path. -/
  pathInfo : String
  vars : List (String × Value)
  attached : Chain

def leafVariable : String := "SSL_CLIENT_CERT"

def chainVariable (n : Nat) : String := "SSL_CLIENT_CERT_CHAIN_" ++ Text.decimalText n

namespace Request

def dropFirstSlash : List Char → List Char
  | [] => []
  | c :: cs => if c = '/' then cs else c :: dropFirstSlash cs

/-- A path under a mount path. -/
def pathUnder (mount info : String) : String :=
  let front := Text.trimEndBy (· == '/') mount.toList
  String.ofList (front ++ '/' :: dropFirstSlash info.toList)

/-- The octets of a variable, or a default if it is not there. -/
def octetsOf (vars : List (String × Value)) (name : String) (default : List UInt8) :
    Except Failure (List UInt8) :=
  match vars.lookup name with
  | none => .ok default
  | some (.text s) =>
    match Narrow.octets? s with
    | some bs => .ok bs
    | none => .error .unencodable
  | some v => .error (.missingAttribute v.typeName "encode")

def slash : UInt8 := 47

/-- One slash in place of several in a row. -/
def squeeze : List UInt8 → List UInt8
  | a :: b :: bs => if a = slash && b = slash then squeeze (b :: bs) else a :: squeeze (b :: bs)
  | bs => bs

def dropEnding (ending bs : List UInt8) : List UInt8 :=
  if ending.isSuffixOf bs then bs.take (bs.length - ending.length) else bs

/-- The mount path that the server names. A server that rewrites paths names the whole path as it
came from the client, and the mount path is what the path below it leaves over. -/
def namedMount (vars : List (String × Value)) : Except Failure (List UInt8) := do
  let rewritten ← octetsOf vars "SCRIPT_URL" []
  let whole ← if rewritten.isEmpty then octetsOf vars "REDIRECT_URL" [] else pure rewritten
  if whole.isEmpty then octetsOf vars "SCRIPT_NAME" []
  else return dropEnding (← octetsOf vars "PATH_INFO" []) (squeeze whole)

/-- The mount path of a request. One in the settings takes the place of the server's. -/
def mountOf (s : Settings) (vars : List (String × Value)) : Except Failure Value :=
  if !s.mountPath.isNull then .ok s.mountPath
  else do
    match Utf8.decode? (← namedMount vars) with
    | some mount => return .text mount
    | none => .error .undecodable

def verbOf (vars : List (String × Value)) : Except Failure String :=
  match vars.lookup "REQUEST_METHOD" with
  | none => .error (.missingKey (Failure.named "REQUEST_METHOD"))
  | some (.text method) => .ok (Text.upper method)
  | some v => .error (.missingAttribute v.typeName "upper")

/-- The type of the content has to be a text if it is there. -/
def checkContentType (vars : List (String × Value)) : Except Failure Unit :=
  match vars.lookup "CONTENT_TYPE" with
  | none | some (.text _) => .ok ()
  | some v => .error (.notAppendable v.typeName)

def receive (s : Settings) (d : Delivery) : Except Failure Request := do
  let mount ← mountOf s d.vars
  let info := Narrow.readable (← octetsOf d.vars "PATH_INFO" [slash])
  let info := if info.isEmpty then "/" else info
  match mount with
  | .text front => do
    let verb ← verbOf d.vars
    checkContentType d.vars
    return {
      verb := verb
      path := pathUnder front info
      pathInfo := info
      vars := ("PATH_INFO", .text info) :: ("SCRIPT_NAME", mount) :: d.vars
      attached := d.attached }
  | .octets _ => .error (.octetsNeeded "str")
  | v => .error (.missingAttribute v.typeName "rstrip")

def given? (vars : List (String × Value)) (name : String) : Option Value :=
  (vars.lookup name).filter Value.isGiven

def recordOf (v : Value) : Record := .certificate (.ofValue v)

/-- The records of the numbered variables from `n` on, up to the first that is not given. There are
no more of them than variables, which is the fuel. -/
def numbered (vars : List (String × Value)) : Nat → Nat → List Record
  | 0, _ => []
  | fuel + 1, n =>
    match given? vars (chainVariable n) with
    | none => []
    | some v => recordOf v :: numbered vars fuel (n + 1)

/-- What an escaped value stands for. -/
def unescape : Value → Except Failure Value
  | .text s => .ok (.text (Percent.decode s))
  | .octets bs => .ok (.text (Percent.decodeOctets bs))
  | .object o => Fault.result o.unescaped
  | v => do
    if ← Value.isIn (.text "%") v then .error (.notText v.typeName)
    else .error (.missingAttribute v.typeName "split")

/-- The records of the header that a proxy sets, if it is configured and given. -/
def forwarded (vars : List (String × Value)) (header : Value) :
    Except Failure (Option (List Record)) :=
  if !header.isGiven then .ok none
  else do
    match ← Value.get? header vars with
    | none => return none
    | some v =>
      if v.isGiven then return some [recordOf (← unescape v)]
      else return none

/-- The chain in the variables of a request; the server's own go before the header. -/
def presented (vars : List (String × Value)) (header : Value) :
    Except Failure (Option (List Record)) :=
  match given? vars leafVariable with
  | some leaf => .ok (some (recordOf leaf :: numbered vars vars.length 0))
  | none => forwarded vars header

/-- The chain of a request, for the name of the header that a proxy sets. -/
def chain? (header : Value) (r : Request) : Except Failure (Option (List Record)) :=
  match r.attached with
  | .records rs => .ok (some rs)
  | .passing steps => some <$> steps.mapM Fault.result
  | .value v =>
    if !v.isNull then return some ((← v.items).map .plain)
    else presented r.vars header

def spent (r : Request) : Request := { r with attached := r.attached.spent }

end Request

/-- A chain as the gate takes it, nothing for none. -/
def Chain.ofRecords? : Option (List Record) → Chain
  | none => .value .null
  | some rs => .records rs

end CertGate
