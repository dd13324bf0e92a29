import CertGate.Text.Quoted
import CertGate.Time.Moment

/-!
# Failures

A `Failure` is a cause: what could not be done, with the parts of its wording that depend on the
input. `Failure.kind` sorts the causes into families, `Failure.message` words them, and
`Failure.cause?` gives the failure behind one that only reports another.

The handlers of the gate tell families apart by `isValidity`, `isCertificate`, `isFatal` and
`isImport`; none of them meets what `isExit`.
-/

namespace CertGate

/-- The families of failures. -/
inductive Kind
  | policy
  | certificate
  | validity
  | expired
  | notYetValid
  | fatal
  | gateState
  | running
  | key
  | type
  | attribute
  | value
  | frozenField
  | importing
  | moduleNotFound
  | version
  | validation
  | command
  | fileNotFound
  | notFolder
  | isFolder
  | system
  | lookup
  | connection
  | blocked
  | decoding
  | encoding
  | tooManyFields
  /-- The end of the process, which handlers of failures let pass. -/
  | exit
  /-- None of these. -/
  | foreign
  deriving DecidableEq, Repr

/-- What could not be done, and why. Parts of an input appear as they are shown in messages, types by
their names. -/
inductive Failure
  /-- A provider, a record or another thing from outside failed in its own words. -/
  | raised (kind : Kind) (text : String)
  -- flags, options and gates
  | unknownFlag (source value : String)
  | notProvider (value : String)
  | startFailed (cause : Failure)
  | optionsNotMapping (type : String)
  | policyNotImported (name : String) (cause : Failure)
  | policyNotCreated (type : String) (cause : Failure)
  | alreadyStarted (state : String)
  | notReady (state : String)
  -- certificates
  | unreadableCertificate
  | unsupportedVersion
  | malformedField
  /-- A name holds a bit string where only a text can be. -/
  | strayBits
  | tooEarly (start : Moment)
  | tooLate (finish : Moment)
  -- operations on values that they are not made for
  | missingAttribute (type name : String)
  | missingKey (key : String)
  | notIterable (type : String)
  | notCallable (type : String)
  | notSubscriptable (type : String)
  | noLength (type : String)
  | notText (type : String)
  | textNeeded (type : String)
  | octetsNeeded (type : String)
  | noOctet
  | notContainer (type : String)
  | unhashable (type : String)
  | notAddable (left right : String)
  | notConcatenable (type other : String)
  | notAppendable (type : String)
  | notAppendableToOctets (type : String)
  | badBeginning (type : String)
  | badBeginnings (type : String)
  | badOctetBeginning (type : String)
  | incomparableTimes
  | missingArguments (function : String) (arguments : List String)
  | frozenField (name : String)
  | noHexForm (kind : Kind) (type : String)
  | outsideCalendar
  -- files, requests and commands
  | unfitVariable (name : String)
  | fileNotFound (path : String)
  | notFolder (path : String)
  | isFolder (path : String)
  | longName (name : String)
  | unfitPath (path : String)
  | undecodable
  | unencodable
  | tooManyFields
  | commandFailed (cause : Failure)
  | colorConflict
  /-- Advice keeps a command from running. -/
  | blocked (report : String)
  deriving DecidableEq, Repr

namespace Failure

def kind : Failure → Kind
  | raised k _ | noHexForm k _ => k
  | unknownFlag .. | notProvider _ => .policy
  | startFailed _ | optionsNotMapping _ | policyNotImported .. | policyNotCreated .. => .fatal
  | alreadyStarted _ | notReady _ => .gateState
  | unreadableCertificate => .certificate
  | unsupportedVersion => .version
  | malformedField | noOctet | unfitVariable _ | unfitPath _ => .value
  | tooEarly _ => .notYetValid
  | tooLate _ => .expired
  | missingAttribute .. => .attribute
  | missingKey _ => .key
  | notIterable _ | notCallable _ | notSubscriptable _ | noLength _ | notText _ | textNeeded _
  | notContainer _ | unhashable _ | notAddable .. | notConcatenable .. | notAppendable _
  | notAppendableToOctets _ | badBeginning _ | badBeginnings _ | badOctetBeginning _
  | octetsNeeded _ | incomparableTimes | missingArguments .. | strayBits => .type
  | frozenField _ => .frozenField
  | outsideCalendar => .validation
  | fileNotFound _ => .fileNotFound
  | notFolder _ => .notFolder
  | isFolder _ => .isFolder
  | longName _ => .system
  | blocked _ => .blocked
  | undecodable => .decoding
  | unencodable => .encoding
  | tooManyFields => .tooManyFields
  | commandFailed _ | colorConflict => .command

def named (s : String) : String := "'" ++ s ++ "'"

def message : Failure → String
  | raised .key text => Text.quoted text
  | raised _ text => text
  | unknownFlag source value => "Unrecognized enforcement flag in " ++ source ++ ": " ++ value
  | notProvider value => value ++ " is not an enforcement policy provider"
  | startFailed cause => "X509 gate initialization failed: " ++ cause.message
  | optionsNotMapping type => "X509_AUTH must be a mapping, got " ++ type
  | policyNotImported name cause =>
    "Cannot import X509 enforcement policy " ++ Text.quoted name ++ ": " ++ cause.message
  | policyNotCreated type cause =>
    "Cannot create X509 enforcement policy " ++ type ++ ": " ++ cause.message
  | alreadyStarted state => "Gate already initialized (state: " ++ state ++ ")"
  | notReady state => "Gate cannot evaluate requests (state: " ++ state ++ ")"
  | unreadableCertificate => "Unreadable client certificate: "
  | unsupportedVersion => "unsupported certificate version"
  | malformedField => "malformed certificate field"
  | strayBits => "oid must be X500_UNIQUE_IDENTIFIER for BitString type."
  | tooEarly start => "Certificate not valid before " ++ (Timestamp.universal start).isoText
  | tooLate finish => "Certificate expired at " ++ (Timestamp.universal finish).isoText
  | missingAttribute type name => named type ++ " object has no attribute " ++ named name
  | missingKey key => key
  | notIterable type => named type ++ " object is not iterable"
  | notCallable type => named type ++ " object is not callable"
  | notSubscriptable type => named type ++ " object is not subscriptable"
  | noLength type => "object of type " ++ named type ++ " has no len()"
  | notText type => "expected string or bytes-like object, got " ++ named type
  | textNeeded type => "'in <string>' requires string as left operand, not " ++ type
  | notContainer type => "argument of type " ++ named type ++ " is not iterable"
  | unhashable type => "unhashable type: " ++ named type
  | notAddable left right =>
    "unsupported operand type(s) for +: " ++ named left ++ " and " ++ named right
  | notConcatenable type other =>
    "can only concatenate " ++ type ++ " (not \"" ++ other ++ "\") to " ++ type
  | notAppendable type => "can only concatenate str (not \"" ++ type ++ "\") to str"
  | notAppendableToOctets type => "can't concat " ++ type ++ " to bytes"
  | badBeginning type => "startswith first arg must be str or a tuple of str, not " ++ type
  | badBeginnings type => "tuple for startswith must only contain str, not " ++ type
  | badOctetBeginning type => "startswith first arg must be bytes or a tuple of bytes, not " ++ type
  | octetsNeeded type => "a bytes-like object is required, not " ++ named type
  | noOctet => "byte must be in range(0, 256)"
  | incomparableTimes => "can't compare offset-naive and offset-aware datetimes"
  | missingArguments function arguments =>
    function ++ "() missing " ++ Text.decimalText arguments.length ++
      " required positional argument" ++ (if arguments.length = 1 then "" else "s") ++ ": " ++
      String.intercalate " and " (arguments.map named)
  | frozenField name => "cannot assign to field " ++ Text.quoted name
  | noHexForm _ type => "no hexadecimal form for " ++ type
  | outsideCalendar => "Datetime value out of range."
  | unfitVariable name => "unfit variable " ++ Text.quoted name
  | fileNotFound path => "No such file or directory: " ++ Text.quoted path
  | notFolder path => "Not a directory: " ++ Text.quoted path
  | isFolder path => "Is a directory: " ++ Text.quoted path
  | longName name => "File name too long: " ++ Text.quoted name
  | unfitPath path => "unfit path " ++ Text.quoted path
  | undecodable => "octets that are not UTF-8"
  | unencodable => "characters that stand for no octets"
  | tooManyFields => "too many fields"
  | commandFailed cause => cause.message
  | colorConflict => "The --no-color and --force-color options can't be used together."
  | blocked report => report

/-- The failure that another one reports. -/
def cause? : Failure → Option Failure
  | startFailed cause | policyNotImported _ cause | policyNotCreated _ cause
  | commandFailed cause => some cause
  | _ => none

def isValidity (f : Failure) : Bool :=
  match f.kind with
  | .validity | .expired | .notYetValid => true
  | _ => false

def isCertificate (f : Failure) : Bool := f.kind = .certificate || f.isValidity

def isFatal (f : Failure) : Bool := f.kind = .fatal

/-- Whether a dotted name led nowhere. -/
def isImport (f : Failure) : Bool := f.kind = .importing || f.kind = .moduleNotFound

/-- Whether the process is to end. -/
def isExit (f : Failure) : Bool := f.kind = .exit

/-- A failure as another one reports it, if it can be handled. -/
def reportedAs (report : Failure → Failure) (f : Failure) : Failure := if f.isExit then f else report f

theorem reportedAs_of_exit {f : Failure} (ends : f.kind = .exit) (report : Failure → Failure) :
    f.reportedAs report = f :=
  if_pos (decide_eq_true ends)

theorem reportedAs_of_ne_exit {f : Failure} (handled : f.kind ≠ .exit) (report : Failure → Failure) :
    f.reportedAs report = report f :=
  if_neg (by simpa [isExit] using handled)

end Failure
end CertGate
