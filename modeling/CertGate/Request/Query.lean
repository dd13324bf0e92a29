import CertGate.Request

/-!
# The query of a request

A query is a row of fields `name=value` with ampersands between them. A plus sign stands for a
space, and escapes for octets of UTF-8. `Request.query` lists the fields in order, and
`Request.asked` is the last value of a name.
-/

namespace CertGate.Request

def maxFields : Nat := 1000

/-- The text of the octets of a query: UTF-8, or else a character for each octet. -/
def queryText (bs : List UInt8) : String := (Utf8.decode? bs).getD (Narrow.text bs)

def partText (cs : List Char) : String :=
  Percent.decode (String.ofList (cs.map fun c => if c = '+' then ' ' else c))

/-- The name and the value of a field, empty without a sign of equality. -/
def fieldOf (cs : List Char) : String × String :=
  (partText (cs.takeWhile (· != '=')), partText ((cs.dropWhile (· != '=')).drop 1))

def fieldsOf (query : String) : Except Failure (List (String × String)) :=
  let pieces := query.toList.splitOn '&'
  if maxFields < pieces.length then .error .tooManyFields
  else .ok ((pieces.filter (!·.isEmpty)).map fieldOf)

def query (r : Request) : Except Failure (List (String × String)) := do
  fieldsOf (queryText (← octetsOf r.vars "QUERY_STRING" []))

/-- The last value that the query gives a name. -/
def asked (r : Request) (name : String) : Except Failure (Option String) := do
  return (← r.query).reverse.lookup name

end CertGate.Request
