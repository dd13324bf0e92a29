import CertGate.Text.Digits

/-!
# Decimal fractions

A `Decimal` is a number with finitely many decimal digits. `Decimal.text` shows it with a point:
positional while the point lies within four zeros in front of and sixteen digits behind the first
digit, else with an exponent of at least two digits.
-/

namespace CertGate

/-- The number `digits * 10 ^ exponent`, negated if `negative`. -/
structure Decimal where
  negative : Bool
  digits : Nat
  exponent : Int
  deriving DecidableEq, Repr

namespace Decimal

/-- Zeros at the end of the digits, moved into the exponent. The fuel bounds their number. -/
def shorten : Nat → Nat → Int → Nat × Int
  | 0, d, e => (d, e)
  | fuel + 1, d, e => if d ≠ 0 && d % 10 == 0 then shorten fuel (d / 10) (e + 1) else (d, e)

/-- The exponent part: a sign and at least two digits. -/
def exponentText (e : Int) : List Char :=
  'e' :: (if e < 0 then '-' else '+') :: Text.padded 10 2 e.natAbs

/-- The digits without a sign; `point` is the number of digits in front of the point. -/
def unsignedText (ds : List Char) (point : Int) : List Char :=
  let n : Int := ds.length
  if point > 16 || point < -3 then
    let tail := ds.drop 1
    ds.take 1 ++ (if tail.isEmpty then [] else '.' :: tail) ++ exponentText (point - 1)
  else if point ≤ 0 then '0' :: '.' :: List.replicate (-point).toNat '0' ++ ds
  else if point ≥ n then ds ++ List.replicate (point - n).toNat '0' ++ ['.', '0']
  else ds.take point.toNat ++ '.' :: ds.drop point.toNat

def text (x : Decimal) : String :=
  let (d, e) := shorten x.digits.log2.succ x.digits x.exponent
  let ds := Nat.toDigits 10 d
  let shown := if d = 0 then ['0', '.', '0'] else unsignedText ds (ds.length + e)
  String.ofList (if x.negative then '-' :: shown else shown)

end Decimal
end CertGate
