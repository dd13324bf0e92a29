import CertGate.Text.Blank

/-!
# Numerals

A whole number may be written in the decimal digits of any script, with single underscores between
them, a sign in front and white space around it: `wholeNumber?` reads it. A numeral that looks like
a negative number is told by `isNegativeNumeral`, a fraction included.
-/

namespace CertGate.Text

/-- The zeros of all scripts; the other digits of a script follow its zero. -/
def digitZeros : List Nat := [
  48, 1632, 1776, 1984, 2406, 2534, 2662, 2790, 2918, 3046, 3174, 3302, 3430, 3558, 3664, 3792,
  3872, 4160, 4240, 6112, 6160, 6470, 6608, 6784, 6800, 6992, 7088, 7232, 7248, 42528, 43216,
  43264, 43472, 43504, 43600, 44016, 65296, 66720, 68912, 69734, 69872, 69942, 70096, 70384,
  70736, 70864, 71248, 71360, 71472, 71904, 72016, 72784, 73040, 73120, 92768, 92864, 93008,
  120782, 120792, 120802, 120812, 120822, 123200, 123632, 125264, 130032]

def digit? (c : Char) : Option Nat :=
  (digitZeros.find? fun z => z ≤ c.toNat && c.toNat < z + 10).map (c.toNat - ·)

def isDigit (c : Char) : Bool := (digit? c).isSome

/-- The number that digits stand for, with single underscores between them. -/
def digitRow? (cs : List Char) : Option Nat :=
  if (cs.splitOn '_').any List.isEmpty then none
  else ((cs.filter (· != '_')).mapM digit?).map fun ds => ds.foldl (fun n d => n * 10 + d) 0

def wholeNumber? (s : String) : Option Int :=
  match trimBy isSpace s.toList with
  | '-' :: cs => (digitRow? cs).map fun n => -(n : Int)
  | '+' :: cs => (digitRow? cs).map fun n => (n : Int)
  | cs => (digitRow? cs).map fun n => (n : Int)

/-- Whether a text is a hyphen and digits, perhaps with a point among them and digits behind it; a
line end may follow. -/
def isNegativeNumeral (s : String) : Bool :=
  match s.toList with
  | '-' :: cs =>
    let cs := if cs.getLast? = some '\n' then cs.dropLast else cs
    match cs.dropWhile isDigit with
    | [] => !cs.isEmpty
    | '.' :: rest => !rest.isEmpty && rest.all isDigit
    | _ => false
  | _ => false

end CertGate.Text
