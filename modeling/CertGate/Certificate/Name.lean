import CertGate.Octets.Utf8
import CertGate.Text.Digits

/-!
# Distinguished names

A name is a row of sets of attributes, as a certificate holds them, the broadest set first.
`DistinguishedName.text` is its one-line form: the sets in reverse order with commas between them,
the attributes of one set with plus signs. Some names can be stored but not shown: those with an
empty set, with one attribute twice in a set, or with a value that is no text.

`escape` keeps the marks of this form apart from the same characters in a value.
-/

namespace CertGate

/-- The value of an attribute as it is stored. -/
inductive AttributeValue
  /-- A text of a type that is checked when the certificate is read. -/
  | text (s : String)
  /-- Octets that should be UTF-8, checked when the name is shown. -/
  | octets (bs : List UInt8)
  | bits (bs : List UInt8)
  | other
  deriving DecidableEq, Repr

structure Attribute where
  type : List Nat
  value : AttributeValue
  deriving DecidableEq, Repr

/-- Sets of attributes, the broadest first. -/
structure DistinguishedName where
  sets : List (List Attribute)
  deriving DecidableEq, Repr

inductive Legible
  | text (s : String)
  | bits (bs : List UInt8)
  deriving DecidableEq, Repr

inductive DistinguishedName.Defect
  /-- A set is empty or holds an attribute twice, or a value is no text. -/
  | malformed
  /-- A bit string is the value of an attribute of another type. -/
  | strayBits
  deriving DecidableEq, Repr

open DistinguishedName (Defect)

def uniqueIdentifier : List Nat := [2, 5, 4, 45]

def Attribute.legible (a : Attribute) : Except Defect Legible :=
  match a.value with
  | .text s => .ok (.text s)
  | .octets bs =>
    match Utf8.decode? bs with
    | some s => .ok (.text s)
    | none => .error .malformed
  | .bits bs => if a.type = uniqueIdentifier then .ok (.bits bs) else .error .strayBits
  | .other => .error .malformed

def shortNames : List (List Nat × String) := [
  ([2, 5, 4, 3], "CN"), ([2, 5, 4, 7], "L"), ([2, 5, 4, 8], "ST"), ([2, 5, 4, 10], "O"),
  ([2, 5, 4, 11], "OU"), ([2, 5, 4, 6], "C"), ([2, 5, 4, 9], "STREET"),
  ([0, 9, 2342, 19200300, 100, 1, 25], "DC"), ([0, 9, 2342, 19200300, 100, 1, 1], "UID")]

/-- The short name of an attribute type, or its arcs with dots between them. -/
def typeText (type : List Nat) : String :=
  match shortNames.lookup type with
  | some name => name
  | none => String.intercalate "." (type.map Text.decimalText)

def escapeChar (c : Char) : List Char :=
  if c ∈ ['\\', '"', '+', ',', ';', '<', '>'] then ['\\', c]
  else if c = '\x00' then ['\\', '0', '0']
  else [c]

/-- The last characters of a value, where a space gets a backslash. -/
def escapeTail : List Char → List Char
  | [] => []
  | [' '] => ['\\', ' ']
  | c :: cs => escapeChar c ++ escapeTail cs

/-- The characters of a value, with a backslash in front of a number sign or a space at the start
too. -/
def escape : List Char → List Char
  | '#' :: cs => '\\' :: '#' :: escapeTail cs
  | ' ' :: c :: cs => '\\' :: ' ' :: escapeTail (c :: cs)
  | cs => escapeTail cs

def Legible.show : Legible → String
  | .text s => String.ofList (escape s.toList)
  | .bits [] => ""
  | .bits bs => String.ofList ('#' :: bs.flatMap fun b => Text.padded 16 2 b.toNat)

def setText (set : List Attribute) : Except Defect String := do
  let shown ← set.mapM fun a => a.legible.map (a.type, ·)
  if shown.isEmpty || !decide shown.Nodup then .error .malformed
  else return String.intercalate "+" (shown.map fun (type, v) => typeText type ++ "=" ++ v.show)

/-- The name on one line. The first set that cannot be shown says why the name cannot. -/
def DistinguishedName.text (n : DistinguishedName) : Except Defect String :=
  (n.sets.mapM setText).map fun texts => String.intercalate "," texts.reverse

end CertGate
