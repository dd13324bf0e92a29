/-!
# Numbers in digits

* `ofDigits? base cs` : the number that digits stand for, letters of both cases counting from ten;
* `padded base width n` : the digits of a number with zeros in front up to a width;
* `integerText n`, `hexText n` : an integer of any size in decimal and in hexadecimal digits, with a
  sign when it is negative.

Reading undoes writing (`ofDigits?_toDigits`, `readHex?_hexText`). `IsHexOf n t` is what a text in
hexadecimal has to be, and `hexText` is (`isHexOf_hexText`).
-/

namespace CertGate.Text

/-- The number that a digit stands for, letters of both cases counting from ten. -/
def digitValue? (base : Nat) (c : Char) : Option Nat :=
  let n := c.toNat
  let v := if n < 58 then n - 48 else if n < 97 then n - 55 else n - 87
  let isDigit := (48 ≤ n && n < 58) || (65 ≤ n && n < 71) || (97 ≤ n && n < 103)
  if isDigit && v < base then some v else none

def pushDigit? (base : Nat) (acc : Option Nat) (c : Char) : Option Nat :=
  acc.bind fun n => (digitValue? base c).map (n * base + ·)

/-- The number that one or more digits stand for. -/
def ofDigits? (base : Nat) (cs : List Char) : Option Nat :=
  if cs.isEmpty then none else cs.foldl (pushDigit? base) (some 0)

def padded (base width n : Nat) : List Char := (Nat.toDigits base n).leftpad width '0'

def decimalText (n : Nat) : String := String.ofList (Nat.toDigits 10 n)

def integerText (n : Int) : String :=
  if n < 0 then "-" ++ decimalText n.natAbs else decimalText n.natAbs

def hexText (n : Int) : String :=
  let digits := Nat.toDigits 16 n.natAbs
  String.ofList (if n < 0 then '-' :: digits else digits)

def readHex? (s : String) : Option Int :=
  match s.toList with
  | '-' :: cs => (ofDigits? 16 cs).map fun n => -Int.ofNat n
  | cs => (ofDigits? 16 cs).map Int.ofNat

/-! ## Reading back -/

theorem digitValue?_digitChar {base n : Nat} (h : n < base) (hb : base ≤ 16) :
    digitValue? base n.digitChar = some n := by
  have all : ∀ b ≤ 16, ∀ m < b, digitValue? b m.digitChar = some m := by decide
  exact all base hb n h

theorem foldl_toDigits {base : Nat} (low : 1 < base) (high : base ≤ 16) (n : Nat) :
    (Nat.toDigits base n).foldl (pushDigit? base) (some 0) = some n := by
  induction n using Nat.strongRecOn with
  | ind n ih =>
    rw [Nat.toDigits_eq_if low]
    split
    · next h => simp [pushDigit?, digitValue?_digitChar h high]
    · next h =>
      have smaller : n / base < n := Nat.div_lt_self (by omega) low
      have last : n % base < base := Nat.mod_lt _ (by omega)
      rw [List.foldl_append, ih _ smaller]
      simp [pushDigit?, digitValue?_digitChar last high, Nat.div_add_mod']

theorem ofDigits?_toDigits {base : Nat} (low : 1 < base) (high : base ≤ 16) (n : Nat) :
    ofDigits? base (Nat.toDigits base n) = some n := by
  simp [ofDigits?, Nat.toDigits_ne_nil, foldl_toDigits low high]

/-- What holds of each digit below the base holds of all digits of a number. -/
theorem forall_mem_toDigits {base : Nat} (low : 1 < base) {P : Char → Prop}
    (digit : ∀ m < base, P m.digitChar) (n : Nat) : ∀ c ∈ Nat.toDigits base n, P c := by
  induction n using Nat.strongRecOn with
  | ind n ih =>
    rw [Nat.toDigits_eq_if low]
    split
    · next small =>
      rw [List.forall_mem_singleton]
      exact digit n small
    · next large =>
      have smaller : n / base < n := Nat.div_lt_self (by omega) low
      rw [List.forall_mem_append, List.forall_mem_singleton]
      exact ⟨ih _ smaller, digit _ (Nat.mod_lt _ (by omega))⟩

/-- Digits are no sign. -/
theorem minus_not_mem_toDigits {base : Nat} (low : 1 < base) (high : base ≤ 16) (n : Nat) :
    '-' ∉ Nat.toDigits base n := by
  have digit : ∀ m < 16, m.digitChar ≠ '-' := by decide
  have digits : ∀ c ∈ Nat.toDigits base n, c ≠ '-' :=
    forall_mem_toDigits low (fun m small => digit m (by omega)) n
  intro mem
  exact digits '-' mem rfl

def hexDigits : List Char := "0123456789abcdef".toList

/-- A text is a number in lower-case hexadecimal digits, with a sign exactly if the number is negative. -/
structure IsHexOf (n : Int) (t : String) : Prop where
  spelled : ∃ digits : List Char, digits ≠ [] ∧ (∀ c ∈ digits, c ∈ hexDigits) ∧
    t = String.ofList (if n < 0 then '-' :: digits else digits)
  read : readHex? t = some n

theorem readHex?_hexText (n : Int) : readHex? (hexText n) = some n := by
  have read := ofDigits?_toDigits (show 1 < 16 by decide) (Nat.le_refl 16) n.natAbs
  by_cases h : n < 0
  · simp only [readHex?, hexText, h, if_true, String.toList_ofList]
    rw [read, Option.map_some, Int.ofNat_eq_natCast]
    exact congrArg some (by omega)
  · have sign := minus_not_mem_toDigits (show 1 < 16 by decide) (Nat.le_refl 16) n.natAbs
    simp only [readHex?, hexText, h, if_false, String.toList_ofList]
    split
    · next cs hcs => exact absurd (hcs ▸ List.mem_cons_self) sign
    · rw [read, Option.map_some, Int.ofNat_eq_natCast]
      exact congrArg some (by omega)

theorem isHexOf_hexText (n : Int) : IsHexOf n (hexText n) where
  spelled := by
    have digit : ∀ m < 16, m.digitChar ∈ hexDigits := by decide
    exact ⟨Nat.toDigits 16 n.natAbs, Nat.toDigits_ne_nil,
      forall_mem_toDigits (by decide) digit n.natAbs, rfl⟩
  read := readHex?_hexText n

end CertGate.Text
