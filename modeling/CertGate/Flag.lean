import CertGate.Text.Blank
import CertGate.Text.LowerCase
import CertGate.Value.Show

/-!
# Enforcement flags

A flag is a truth value, or one of a few words in any case with blanks around it. Nothing else is a
flag, whether or not it counts as given.
-/

namespace CertGate.Flag

def onWords : List String := ["1", "true", "yes", "on"]

/-- The words for off. A blank text means off too. -/
def offWords : List String := ["0", "false", "no", "off", ""]

def ofWord? (s : String) : Option Bool :=
  let word := Text.lower (Text.trim s)
  if word ∈ onWords then some true else if word ∈ offWords then some false else none

/-- The flag of a value that has been found in some source. -/
def read (source : String) : Value → Except Failure Bool
  | .bool b => .ok b
  | .text s =>
    match ofWord? s with
    | some b => .ok b
    | none => .error (.unknownFlag source (Value.text s).show)
  | v => .error (.unknownFlag source v.show)

end CertGate.Flag
