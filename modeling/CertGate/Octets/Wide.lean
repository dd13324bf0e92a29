/-!
# Texts in units of two and four octets

`Wide.decode16?` reads UTF-16 and `Wide.decode32?` reads UTF-32, both with the high octet first.
Surrogates have to come in pairs in the one and not at all in the other.
-/

namespace CertGate.Wide

def units16? : List UInt8 → Option (List Nat)
  | [] => some []
  | [_] => none
  | a :: b :: rest => (units16? rest).map ((a.toNat * 256 + b.toNat) :: ·)

def units32? : List UInt8 → Option (List Nat)
  | [] => some []
  | a :: b :: c :: d :: rest =>
    (units32? rest).map ((((a.toNat * 256 + b.toNat) * 256 + c.toNat) * 256 + d.toNat) :: ·)
  | _ => none

/-- The first half of a pair. -/
def isHigh (n : Nat) : Bool := 0xD800 ≤ n && n < 0xDC00

/-- The second half of a pair. -/
def isLow (n : Nat) : Bool := 0xDC00 ≤ n && n < 0xE000

def pairs? : List Nat → Option (List Char)
  | [] => some []
  | [n] => if isHigh n || isLow n then none else some [Char.ofNat n]
  | n :: m :: rest =>
    if isHigh n then
      if isLow m then
        (pairs? rest).map (Char.ofNat (0x10000 + (n - 0xD800) * 0x400 + (m - 0xDC00)) :: ·)
      else none
    else if isLow n then none
    else (pairs? (m :: rest)).map (Char.ofNat n :: ·)

def scalar? (n : Nat) : Option Char :=
  if n.isValidChar then some (Char.ofNat n) else none

def decode16? (bs : List UInt8) : Option String :=
  ((units16? bs).bind pairs?).map String.ofList

def decode32? (bs : List UInt8) : Option String :=
  ((units32? bs).bind (·.mapM scalar?)).map String.ofList

end CertGate.Wide
