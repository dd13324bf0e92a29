import CertGate.Text.Decimal

/-!
# Binary fractions

A number that is written in decimal digits counts as the nearest one of 53 binary digits, and so two
decimals may be one number. `Binary.ofDecimal` rounds, a half to the even neighbour, down to the
step of the smallest numbers and up to where numbers become infinite; a whole number is kept
exactly.
-/

namespace CertGate

/-- A quotient rounded to a whole number, a half to the even one. -/
def roundDiv (n d : Nat) : Nat :=
  let rest := 2 * (n % d)
  if rest < d || (rest = d && n / d % 2 = 0) then n / d else n / d + 1

/-- The number `mantissa * 2 ^ exponent`, or an infinite one. -/
inductive Binary
  | finite (mantissa exponent : Int)
  | infinite (negative : Bool)

namespace Binary

def precision : Nat := 53

def lowest : Int := -1074

def highest : Nat := 1024

/-- Numbers with the point beyond so many decimal digits are infinite, or nought. -/
def reach : Nat := 400

/-- `n / (d * 2 ^ e)` as numerator and denominator. -/
def scale (n d : Nat) (e : Int) : Nat × Nat :=
  (n * Nat.pow 2 (-e).toNat, d * Nat.pow 2 e.toNat)

/-- The exponent for a quotient, with no more digits in front of the point than are kept. -/
def exponentFor (n d : Nat) : Int :=
  let e : Int := n.log2 - d.log2 - precision
  let (a, b) := scale n d e
  max lowest (if a / b < Nat.pow 2 precision then e else e + 1)

def ofQuotient (negative : Bool) (n d : Nat) : Binary :=
  let e := exponentFor n d
  let (a, b) := scale n d e
  let m := roundDiv a b
  if Nat.pow 2 highest ≤ m * Nat.pow 2 e.toNat then .infinite negative
  else .finite (if negative then -(m : Int) else m) e

def ofDecimal (x : Decimal) : Binary :=
  let point := x.exponent + (Nat.toDigits 10 x.digits).length
  if x.digits = 0 || point < -reach then .finite 0 0
  else if (reach : Int) < point then .infinite x.negative
  else ofQuotient x.negative (x.digits * Nat.pow 10 x.exponent.toNat)
    (Nat.pow 10 (-x.exponent).toNat)

def ofInt (n : Int) : Binary := .finite n 0

def isZero : Binary → Bool
  | finite m _ => m == 0
  | infinite _ => false

def sameAs : Binary → Binary → Bool
  | finite m e, finite n f =>
    m * Nat.pow 2 (e - min e f).toNat == n * Nat.pow 2 (f - min e f).toNat
  | infinite s, infinite t => s == t
  | _, _ => false

end Binary

end CertGate
