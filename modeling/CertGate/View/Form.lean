import CertGate.Request.Query
import CertGate.Text.LowerCase

/-!
# The form of an answer

Answers are given in one form only. A request may ask for a form, by its name in the query or by the
media types in a header that are acceptable; `Form.choose` says whether the one form will do.
-/

namespace CertGate.Form

inductive Refusal
  | unknownFormat
  | notAcceptable
  deriving DecidableEq, Repr

def name : String := "json"

def mediaType : String × String := ("application", "json")

/-- What stands in front of the parameters of a media type. A semicolon between quotes does not end
it, and a backslash keeps a quote from counting. -/
def beforeParameters (cs : List Char) : List Char :=
  go cs '"' false
where
  /-- The rest behind `last`, inside quotes or not. -/
  go : List Char → Char → Bool → List Char
    | [], _, _ => []
    | c :: cs, last, quoted =>
      if c = ';' && !quoted then []
      else c :: go cs c (if c = '"' && last != '\\' then !quoted else quoted)

def partMatches (asked given : String) : Bool := asked = "*" || asked = given

def acceptable (token : String) : Bool :=
  let full := (Text.lower (Text.trim (String.ofList (beforeParameters token.toList)))).toList
  let main := String.ofList (full.takeWhile (· != '/'))
  let sub := String.ofList ((full.dropWhile (· != '/')).drop 1)
  partMatches main mediaType.1 && partMatches sub mediaType.2

/-- Whether one of the media types in a header will do. -/
def anyAcceptable (header : String) : Bool :=
  (Text.splitText ',' header).any fun token => acceptable (Text.trim token)

/-- Why the form will not do for a request, if it will not. -/
def refusal? (r : Request) : Except Failure (Option Refusal) := do
  match (← r.asked "format").filter (· != "") with
  | some other =>
    if other != name then return some .unknownFormat
  | none => pure ()
  match r.vars.lookup "HTTP_ACCEPT" with
  | none => return none
  | some (.text header) => return if anyAcceptable header then none else some .notAcceptable
  | some v => .error (.missingAttribute v.typeName "split")

end CertGate.Form
