/-!
# UTF-8

* `Utf8.encodeChar`, `Utf8.encode` : the octets of a character, of a text;
* `Utf8.read` : the character at the front of some octets, or the extent of what is ill-formed
  there;
* `Utf8.decode?` : the text of well-formed octets;
* `Utf8.charsWith`, `Utf8.decodeLossy` : a text of any octets, with something else, or with one
  U+FFFD, for each maximal part of a sequence that is not completed.

Reading undoes writing, character by character (`read_encodeChar`) and for whole texts
(`decodeLossy_encode`).
-/

namespace CertGate.Utf8

def octet (n : Nat) : UInt8 := UInt8.ofNat n

/-- A continuation octet with the six low bits of a number. -/
def continuation (n : Nat) : UInt8 := octet (0x80 + n % 64)

/-- The one to four octets of a character. -/
def encodeChar (c : Char) : List UInt8 :=
  let n := c.toNat
  if n < 0x80 then [octet n]
  else if n < 0x800 then [octet (0xC0 + n / 64), continuation n]
  else if n < 0x10000 then [octet (0xE0 + n / 4096), continuation (n / 64), continuation n]
  else [octet (0xF0 + n / 262144), continuation (n / 4096), continuation (n / 64), continuation n]

def encode (s : String) : List UInt8 := s.toList.flatMap encodeChar

/-- What a first octet announces: how many octets follow, the range of the next one, and the bits
that the first one holds itself. -/
structure Lead where
  more : Nat
  low : Nat
  high : Nat
  bits : Nat

/-- What an octet announces as the first of a sequence. The ranges leave out overlong forms,
surrogates, and numbers beyond the last code point. -/
def lead? (b : Nat) : Option Lead :=
  if b < 0x80 then some ⟨0, 0, 0, b⟩
  else if b < 0xC2 then none
  else if b < 0xE0 then some ⟨1, 0x80, 0xBF, b - 0xC0⟩
  else if b = 0xE0 then some ⟨2, 0xA0, 0xBF, 0⟩
  else if b = 0xED then some ⟨2, 0x80, 0x9F, 0xD⟩
  else if b < 0xF0 then some ⟨2, 0x80, 0xBF, b - 0xE0⟩
  else if b = 0xF0 then some ⟨3, 0x90, 0xBF, 0⟩
  else if b < 0xF4 then some ⟨3, 0x80, 0xBF, b - 0xF0⟩
  else if b = 0xF4 then some ⟨3, 0x80, 0x8F, 4⟩
  else none

/-- The number that the following octets complete, with how many of them were good. -/
def follow : Nat → Nat → Nat → Nat → Nat → List UInt8 → Option Nat × Nat
  | 0, _, _, acc, taken, _ => (some acc, taken)
  | _ + 1, _, _, _, taken, [] => (none, taken)
  | more + 1, low, high, acc, taken, b :: bs =>
    if low ≤ b.toNat && b.toNat ≤ high then
      follow more 0x80 0xBF (acc * 64 + b.toNat % 64) (taken + 1) bs
    else (none, taken)

/-- The character that begins with the octet `b`, or `none` if what begins there is ill-formed; and
how many octets behind `b` belong to it. -/
def read (b : UInt8) (bs : List UInt8) : Option Char × Nat :=
  match lead? b.toNat with
  | none => (none, 0)
  | some l =>
    let (n, taken) := follow l.more l.low l.high l.bits 0 bs
    (n.map Char.ofNat, taken)

def decodeChars? : List UInt8 → Option (List Char)
  | [] => some []
  | b :: bs => do
    let c ← (read b bs).1
    let cs ← decodeChars? (bs.drop (read b bs).2)
    return c :: cs
termination_by bs => bs.length
decreasing_by simp only [List.length_drop, List.length_cons]; omega

theorem read_of_ascii {b : UInt8} (h : b.toNat < 128) (bs : List UInt8) :
    read b bs = (some (Char.ofNat b.toNat), 0) := by
  have lead : lead? b.toNat = some ⟨0, 0, 0, b.toNat⟩ := if_pos h
  unfold read
  rw [lead]
  rfl

theorem decodeChars?_of_ascii {bs : List UInt8} (h : ∀ b ∈ bs, b.toNat < 128) :
    decodeChars? bs = some (bs.map fun b => Char.ofNat b.toNat) := by
  induction bs with
  | nil => rw [decodeChars?, List.map_nil]
  | cons b bs ih =>
    rw [decodeChars?, read_of_ascii (h b (by simp)), List.drop_zero,
      ih fun c mem => h c (by simp [mem])]
    rfl

def decode? (bs : List UInt8) : Option String := (decodeChars? bs).map String.ofList

/-- The characters of any octets, with those that `fault` gives in place of each ill-formed part. -/
def charsWith (fault : List UInt8 → List Char) : List UInt8 → List Char
  | [] => []
  | b :: bs =>
    let front := match (read b bs).1 with
      | some c => [c]
      | none => fault (b :: bs.take (read b bs).2)
    front ++ charsWith fault (bs.drop (read b bs).2)
termination_by bs => bs.length
decreasing_by simp only [List.length_drop, List.length_cons]; omega

def replacement : Char := '\uFFFD'

/-- The text of any octets, with a replacement for each ill-formed part. -/
def decodeLossy (bs : List UInt8) : String :=
  String.ofList (charsWith (fun _ => [replacement]) bs)

/-! ## Reading back -/

theorem toNat_octet {n : Nat} (h : n < 256) : (octet n).toNat = n :=
  UInt8.toNat_ofNat'.trans (Nat.mod_eq_of_lt h)

theorem toNat_continuation (n : Nat) : (continuation n).toNat = 0x80 + n % 64 :=
  toNat_octet (by omega)

/-- The octets of a character are those of the standard. -/
theorem encodeChar_eq (c : Char) : encodeChar c = String.utf8EncodeChar c := by
  have valid : c.toNat < 0xD800 ∨ (0xDFFF < c.toNat ∧ c.toNat < 0x110000) := c.valid
  have same : ∀ {m n : Nat}, m = n → octet m = UInt8.ofNat n := congrArg UInt8.ofNat
  unfold encodeChar String.utf8EncodeChar continuation
  dsimp only
  rw [Char.toNat_val]
  by_cases one : c.toNat < 0x80
  · rw [if_pos one, if_pos (by omega)]
    rfl
  rw [if_neg one, if_neg (show ¬ c.toNat ≤ 127 by omega)]
  by_cases two : c.toNat < 0x800
  · rw [if_pos two, if_pos (by omega), same (n := c.toNat / 64 % 32 + 192) (by omega),
      same (n := c.toNat % 64 + 128) (by omega)]
  rw [if_neg two, if_neg (show ¬ c.toNat ≤ 2047 by omega)]
  by_cases three : c.toNat < 0x10000
  · rw [if_pos three, if_pos (by omega), same (n := c.toNat / 4096 % 16 + 224) (by omega),
      same (n := c.toNat / 64 % 64 + 128) (by omega), same (n := c.toNat % 64 + 128) (by omega)]
  rw [if_neg three, if_neg (show ¬ c.toNat ≤ 65535 by omega),
    same (n := c.toNat / 262144 % 8 + 240) (by omega),
    same (n := c.toNat / 4096 % 64 + 128) (by omega),
    same (n := c.toNat / 64 % 64 + 128) (by omega), same (n := c.toNat % 64 + 128) (by omega)]

/-- An octet below the lead octets is a character of its own. -/
theorem toNat_of_mem_encodeChar {c : Char} {b : UInt8} (mem : b ∈ encodeChar c) (ascii : b.toNat < 0x80) :
    b.toNat = c.toNat := by
  have valid : c.toNat < 0xD800 ∨ (0xDFFF < c.toNat ∧ c.toNat < 0x110000) := c.valid
  have lead : ∀ {n : Nat}, 0x80 ≤ n → n < 0x100 → b ≠ octet n := by
    rintro n low high rfl
    rw [toNat_octet high] at ascii
    omega
  have behind : ∀ n, b ≠ continuation n := fun n => lead (by omega) (by omega)
  unfold encodeChar at mem
  dsimp only at mem
  split at mem
  · rw [List.mem_singleton.1 mem, toNat_octet (by omega)]
  · exfalso
    split at mem
    · have first : b ≠ octet (0xC0 + c.toNat / 64) := lead (by omega) (by omega)
      simp [first, behind] at mem
    · split at mem
      · have first : b ≠ octet (0xE0 + c.toNat / 4096) := lead (by omega) (by omega)
        simp [first, behind] at mem
      · have first : b ≠ octet (0xF0 + c.toNat / 262144) := lead (by omega) (by omega)
        simp [first, behind] at mem

section Lead
variable {n : Nat}

theorem lead?_of_two (low : 0x80 ≤ n) (high : n < 0x800) :
    lead? (0xC0 + n / 64) = some ⟨1, 0x80, 0xBF, n / 64⟩ := by
  unfold lead?
  rw [if_neg (by omega), if_neg (by omega), if_pos (by omega), Nat.add_sub_cancel_left]

/-- The second octet is in the range that keeps overlong forms and surrogates out. -/
theorem lead?_of_three (low : 0x800 ≤ n) (high : n < 0x10000) (valid : n < 0xD800 ∨ 0xDFFF < n) :
    ∃ lo hi, lead? (0xE0 + n / 4096) = some ⟨2, lo, hi, n / 4096⟩ ∧
      lo ≤ 0x80 + n / 64 % 64 ∧ 0x80 + n / 64 % 64 ≤ hi := by
  unfold lead?
  rw [if_neg (by omega), if_neg (by omega), if_neg (by omega)]
  split
  · have zero : n / 4096 = 0 := by omega
    exact ⟨_, _, by rw [zero], by omega, by omega⟩
  · split
    · have thirteen : n / 4096 = 0xD := by omega
      exact ⟨_, _, by rw [thirteen], by omega, by omega⟩
    · rw [if_pos (by omega), Nat.add_sub_cancel_left]
      exact ⟨_, _, rfl, by omega, by omega⟩

theorem lead?_of_four (low : 0x10000 ≤ n) (high : n < 0x110000) :
    ∃ lo hi, lead? (0xF0 + n / 262144) = some ⟨3, lo, hi, n / 262144⟩ ∧
      lo ≤ 0x80 + n / 4096 % 64 ∧ 0x80 + n / 4096 % 64 ≤ hi := by
  unfold lead?
  rw [if_neg (by omega), if_neg (by omega), if_neg (by omega), if_neg (by omega), if_neg (by omega),
    if_neg (by omega)]
  split
  · have zero : n / 262144 = 0 := by omega
    exact ⟨_, _, by rw [zero], by omega, by omega⟩
  · split
    · rw [Nat.add_sub_cancel_left]
      exact ⟨_, _, rfl, by omega, by omega⟩
    · have four : n / 262144 = 4 := by omega
      exact ⟨_, _, by rw [if_pos (by omega), four], by omega, by omega⟩

end Lead

/-- A continuation octet in the range that is announced for it adds its six bits. -/
theorem follow_continuation {low high n : Nat} (lo : low ≤ 0x80 + n % 64)
    (hi : 0x80 + n % 64 ≤ high) (more acc taken : Nat) (bs : List UInt8) :
    follow (more + 1) low high acc taken (continuation n :: bs) =
      follow more 0x80 0xBF (acc * 64 + n % 64) (taken + 1) bs := by
  have bits : (0x80 + n % 64) % 64 = n % 64 := by omega
  rw [follow, toNat_continuation, decide_eq_true lo, decide_eq_true hi, bits]
  rfl

/-- Behind the second octet every continuation will do. -/
theorem follow_next (n more acc taken : Nat) (bs : List UInt8) :
    follow (more + 1) 0x80 0xBF acc taken (continuation n :: bs) =
      follow more 0x80 0xBF (acc * 64 + n % 64) (taken + 1) bs :=
  follow_continuation (by omega) (by omega) more acc taken bs

section Read
variable {n : Nat} (rest : List UInt8)

theorem read_of_two (low : 0x80 ≤ n) (high : n < 0x800) :
    read (octet (0xC0 + n / 64)) (continuation n :: rest) = (some (Char.ofNat n), 1) := by
  have whole : n / 64 * 64 + n % 64 = n := by omega
  unfold read
  rw [toNat_octet (by omega), lead?_of_two low high]
  dsimp only
  rw [follow_next, whole]
  rfl

theorem read_of_three (low : 0x800 ≤ n) (high : n < 0x10000) (valid : n < 0xD800 ∨ 0xDFFF < n) :
    read (octet (0xE0 + n / 4096)) (continuation (n / 64) :: continuation n :: rest) =
      (some (Char.ofNat n), 2) := by
  have whole : (n / 4096 * 64 + n / 64 % 64) * 64 + n % 64 = n := by omega
  obtain ⟨lo, hi, lead, above, below⟩ := lead?_of_three low high valid
  unfold read
  rw [toNat_octet (by omega), lead]
  dsimp only
  rw [follow_continuation above below, follow_next, whole]
  rfl

theorem read_of_four (low : 0x10000 ≤ n) (high : n < 0x110000) :
    read (octet (0xF0 + n / 262144))
        (continuation (n / 4096) :: continuation (n / 64) :: continuation n :: rest) =
      (some (Char.ofNat n), 3) := by
  have whole : ((n / 262144 * 64 + n / 4096 % 64) * 64 + n / 64 % 64) * 64 + n % 64 = n := by omega
  obtain ⟨lo, hi, lead, above, below⟩ := lead?_of_four low high
  unfold read
  rw [toNat_octet (by omega), lead]
  dsimp only
  rw [follow_continuation above below, follow_next, follow_next, whole]
  rfl

end Read

/-- The octets of a character are read as this character, whatever stands behind them. -/
theorem read_encodeChar (c : Char) : ∃ b bs, encodeChar c = b :: bs ∧
    ∀ rest, read b (bs ++ rest) = (some c, bs.length) := by
  have valid : c.toNat < 0xD800 ∨ (0xDFFF < c.toNat ∧ c.toNat < 0x110000) := c.valid
  have back : Char.ofNat c.toNat = c := Char.ofNat_toNat c
  unfold encodeChar
  dsimp only
  split
  · next one =>
    refine ⟨_, _, rfl, fun rest => ?_⟩
    rw [read_of_ascii (by rwa [toNat_octet (by omega)]), toNat_octet (by omega), back]
    rfl
  · split
    · next two =>
      refine ⟨_, _, rfl, fun rest => (read_of_two rest (by omega) two).trans ?_⟩
      rw [back]
      rfl
    · split
      · next three =>
        refine ⟨_, _, rfl, fun rest => (read_of_three rest (by omega) three (by omega)).trans ?_⟩
        rw [back]
        rfl
      · refine ⟨_, _, rfl, fun rest => (read_of_four rest (by omega) (by omega)).trans ?_⟩
        rw [back]
        rfl

theorem charsWith_encode (fault : List UInt8 → List Char) (cs : List Char) :
    charsWith fault (cs.flatMap encodeChar) = cs := by
  induction cs with
  | nil => rw [List.flatMap_nil, charsWith]
  | cons c cs ih =>
    obtain ⟨b, bs, octets, reads⟩ := read_encodeChar c
    rw [List.flatMap_cons, octets, List.cons_append, charsWith, reads]
    dsimp only
    rw [List.drop_left, ih]
    rfl

/-- The octets of a text are read as this text. -/
theorem decodeLossy_encode (s : String) : decodeLossy (encode s) = s := by
  rw [decodeLossy, encode, charsWith_encode, String.ofList_toList]

end CertGate.Utf8
