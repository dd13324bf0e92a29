/-!
# Base64

* `Base64.encode` : three octets as four letters, with padding at the end;
* `Base64.decode?` : the octets of letters, which have to be padded, and whose unused bits have to
  be zero, so that each list of octets has one spelling.

Decoding gives back what was encoded (`decode?_encode`), and `encode` writes letters and padding
only (`mem_encode`).
-/

namespace CertGate.Base64

def letter (n : Nat) : UInt8 :=
  if n < 26 then UInt8.ofNat (65 + n)
  else if n < 52 then UInt8.ofNat (71 + n)
  else if n < 62 then UInt8.ofNat (n - 4)
  else if n = 62 then 43 else 47

def value? (b : UInt8) : Option Nat :=
  let n := b.toNat
  if 65 ≤ n && n < 91 then some (n - 65)
  else if 97 ≤ n && n < 123 then some (n - 71)
  else if 48 ≤ n && n < 58 then some (n + 4)
  else if n = 43 then some 62
  else if n = 47 then some 63
  else none

theorem value?_letter : ∀ n < 64, value? (letter n) = some n := by decide

/-- The mark that fills up the last four letters. -/
def pad : UInt8 := 61

theorem letter_ne_pad : ∀ n < 64, letter n ≠ pad := by decide

def encode : List UInt8 → List UInt8
  | [] => []
  | [a] => [letter (a.toNat / 4), letter (a.toNat % 4 * 16), pad, pad]
  | [a, b] =>
    [letter (a.toNat / 4), letter (a.toNat % 4 * 16 + b.toNat / 16), letter (b.toNat % 16 * 4), pad]
  | a :: b :: c :: rest =>
    letter (a.toNat / 4) :: letter (a.toNat % 4 * 16 + b.toNat / 16) ::
      letter (b.toNat % 16 * 4 + c.toNat / 64) :: letter (c.toNat % 64) :: encode rest

def decode? : List UInt8 → Option (List UInt8)
  | [] => some []
  | p :: q :: r :: s :: rest => do
    let v ← value? p
    let w ← value? q
    if rest.isEmpty && s = pad then
      if r = pad then
        if w % 16 = 0 then return [UInt8.ofNat (v * 4 + w / 16)] else none
      else
        let x ← value? r
        if x % 4 = 0 then
          return [UInt8.ofNat (v * 4 + w / 16), UInt8.ofNat (w % 16 * 16 + x / 4)]
        else none
    else
      let x ← value? r
      let y ← value? s
      let bs ← decode? rest
      return UInt8.ofNat (v * 4 + w / 16) :: UInt8.ofNat (w % 16 * 16 + x / 4) ::
        UInt8.ofNat (x % 4 * 64 + y) :: bs
  | _ => none

theorem ofNat_of_toNat_eq {n : Nat} {a : UInt8} (h : n = a.toNat) : UInt8.ofNat n = a := by
  rw [h, UInt8.ofNat_toNat]

/-- Decoding takes the letters back four by four, the last of them with their padding. -/
theorem decode?_encode (bs : List UInt8) : decode? (encode bs) = some bs := by
  fun_induction encode bs with
  | case1 => rfl
  | case2 a =>
    have := a.toNat_lt
    have v := value?_letter (a.toNat / 4) (by omega)
    have w := value?_letter (a.toNat % 4 * 16) (by omega)
    have spare : a.toNat % 4 * 16 % 16 = 0 := by omega
    have first : UInt8.ofNat (a.toNat / 4 * 4 + a.toNat % 4 * 16 / 16) = a :=
      ofNat_of_toNat_eq (by omega)
    simp only [decode?, v, w, Option.bind_eq_bind, Option.bind_some, List.isEmpty_nil, decide_true,
      Bool.and_self, if_true, spare, first]
    rfl
  | case3 a b =>
    have := a.toNat_lt
    have := b.toNat_lt
    have v := value?_letter (a.toNat / 4) (by omega)
    have w := value?_letter (a.toNat % 4 * 16 + b.toNat / 16) (by omega)
    have x := value?_letter (b.toNat % 16 * 4) (by omega)
    have spare : b.toNat % 16 * 4 % 4 = 0 := by omega
    have full := letter_ne_pad (b.toNat % 16 * 4) (by omega)
    have first : UInt8.ofNat (a.toNat / 4 * 4 + (a.toNat % 4 * 16 + b.toNat / 16) / 16) = a :=
      ofNat_of_toNat_eq (by omega)
    have second : UInt8.ofNat ((a.toNat % 4 * 16 + b.toNat / 16) % 16 * 16 +
        b.toNat % 16 * 4 / 4) = b := ofNat_of_toNat_eq (by omega)
    simp only [decode?, v, w, x, Option.bind_eq_bind, Option.bind_some, List.isEmpty_nil,
      decide_true, Bool.and_self, if_true, if_neg full, spare, first, second]
    rfl
  | case4 a b c rest ih =>
    have := a.toNat_lt
    have := b.toNat_lt
    have := c.toNat_lt
    have v := value?_letter (a.toNat / 4) (by omega)
    have w := value?_letter (a.toNat % 4 * 16 + b.toNat / 16) (by omega)
    have x := value?_letter (b.toNat % 16 * 4 + c.toNat / 64) (by omega)
    have y := value?_letter (c.toNat % 64) (by omega)
    have full := letter_ne_pad (c.toNat % 64) (by omega)
    have first : UInt8.ofNat (a.toNat / 4 * 4 + (a.toNat % 4 * 16 + b.toNat / 16) / 16) = a :=
      ofNat_of_toNat_eq (by omega)
    have second : UInt8.ofNat ((a.toNat % 4 * 16 + b.toNat / 16) % 16 * 16 +
        (b.toNat % 16 * 4 + c.toNat / 64) / 4) = b := ofNat_of_toNat_eq (by omega)
    have third : UInt8.ofNat ((b.toNat % 16 * 4 + c.toNat / 64) % 4 * 64 + c.toNat % 64) = c :=
      ofNat_of_toNat_eq (by omega)
    simp only [decode?, v, w, x, y, ih, Option.bind_eq_bind, Option.bind_some, decide_eq_false full,
      Bool.and_false, Bool.false_eq_true, if_false, first, second, third]
    rfl

theorem encode_ne_nil {bs : List UInt8} (h : bs ≠ []) : encode bs ≠ [] := by
  fun_cases encode bs with
  | case1 => exact absurd rfl h
  | case2 => simp
  | case3 => simp
  | case4 => simp

theorem mem_encode {bs : List UInt8} {b : UInt8} (mem : b ∈ encode bs) :
    b = pad ∨ ∃ n < 64, b = letter n := by
  induction bs using encode.induct with
  | case1 => cases mem
  | case2 a =>
    have := a.toNat_lt
    simp only [encode, List.mem_cons, List.not_mem_nil, or_false] at mem
    rcases mem with rfl | rfl | rfl | rfl
    · exact .inr ⟨_, by omega, rfl⟩
    · exact .inr ⟨_, by omega, rfl⟩
    · exact .inl rfl
    · exact .inl rfl
  | case3 a c =>
    have := a.toNat_lt
    have := c.toNat_lt
    simp only [encode, List.mem_cons, List.not_mem_nil, or_false] at mem
    rcases mem with rfl | rfl | rfl | rfl
    · exact .inr ⟨_, by omega, rfl⟩
    · exact .inr ⟨_, by omega, rfl⟩
    · exact .inr ⟨_, by omega, rfl⟩
    · exact .inl rfl
  | case4 a c d rest ih =>
    have := a.toNat_lt
    have := c.toNat_lt
    have := d.toNat_lt
    simp only [encode, List.mem_cons] at mem
    rcases mem with rfl | rfl | rfl | rfl | mem
    · exact .inr ⟨_, by omega, rfl⟩
    · exact .inr ⟨_, by omega, rfl⟩
    · exact .inr ⟨_, by omega, rfl⟩
    · exact .inr ⟨_, by omega, rfl⟩
    · exact ih mem

end CertGate.Base64
