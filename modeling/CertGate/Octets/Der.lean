/-!
# Distinguished encoding

Reading of elements that consist of an identifier, a length and a content, in the one encoding that
the distinguished rules allow: lengths definite and as short as possible, numbers without idle
leading octets.

* `Der.Element`, `Der.readElement?` : the element at the front of some octets; `readElement?_eq`
  says that it and the rest make up the octets;
* `Der.elements?` : octets as a row of elements;
* `Der.integer?`, `Der.isBitString`, `Der.objectId?` : contents of the primitive types.
-/

namespace CertGate.Der

/-- An element, with the octets of its identifier, of its content, and of all of it. -/
structure Element where
  identifier : List UInt8
  content : List UInt8
  raw : List UInt8
  deriving DecidableEq, Repr

def Element.hasTag (e : Element) (tag : UInt8) : Bool := e.identifier = [tag]

/-- The number in octets with the high one first. -/
def unsigned (bs : List UInt8) : Nat := bs.foldl (fun n b => n * 256 + b.toNat) 0

/-- The numbers in groups of seven bits, each group but the last of a number marked by its top bit.
A number has no idle leading group, and the last one is complete. -/
def septets? : Nat → Bool → List UInt8 → Option (List Nat)
  | _, started, [] => if started then none else some []
  | acc, started, b :: bs =>
    if !started && b = 0x80 then none
    else
      let n := acc * 128 + b.toNat % 128
      if 0x80 ≤ b then septets? n true bs else (septets? 0 false bs).map (n :: ·)

def fits (bits n : Nat) : Bool := n < Nat.pow 2 bits

/-- How many octets of the identifier follow its first one: none for the tags up to thirty, else
those that spell a higher tag of at most 32 bits. -/
def tagTail? : List UInt8 → Option Nat
  | [] => none
  | b :: bs =>
    if b.toNat % 32 ≠ 31 then some 0
    else
      let high := bs.takeWhile (0x80 ≤ ·)
      let spelled := bs.take (high.length + 1)
      match septets? 0 false spelled with
      | some [n] => if fits 32 n && 31 ≤ n then some spelled.length else none
      | _ => none

/-- The octets of a length and the length itself. -/
def length? : List UInt8 → Option (Nat × Nat)
  | [] => none
  | b :: bs =>
    let n := b.toNat
    if n < 0x80 then some (1, n)
    else
      let k := n - 0x80
      let long := bs.take k
      let value := unsigned long
      let least := if k = 1 then 0x80 else Nat.pow 256 (k - 1)
      if 1 ≤ k && k ≤ 4 && long.length = k && least ≤ value then some (1 + k, value) else none

def readElement? (bs : List UInt8) : Option (Element × List UInt8) := do
  let more ← tagTail? bs
  let (taken, size) ← length? (bs.drop (1 + more))
  let start := 1 + more + taken
  if start + size ≤ bs.length then
    return (⟨bs.take (1 + more), (bs.drop start).take size, bs.take (start + size)⟩,
      bs.drop (start + size))
  else none

theorem readElement?_eq {bs rest : List UInt8} {e : Element}
    (h : readElement? bs = some (e, rest)) : bs = e.raw ++ rest ∧ e.raw ≠ [] := by
  simp only [readElement?, Option.bind_eq_bind, Option.bind_eq_some_iff, Prod.exists] at h
  obtain ⟨more, -, taken, size, -, h⟩ := h
  split at h
  · next hs =>
    simp only [Option.pure_def, Option.some.injEq, Prod.mk.injEq] at h
    obtain ⟨rfl, rfl⟩ := h
    refine ⟨(List.take_append_drop _ _).symm, fun nil => ?_⟩
    have := congrArg List.length nil
    simp only [List.length_take, List.length_nil] at this
    omega
  · simp at h

def elements? (bs : List UInt8) : Option (List Element) :=
  if bs.isEmpty then some []
  else match _h : readElement? bs with
    | none => none
    | some (e, rest) => (elements? rest).map (e :: ·)
termination_by bs.length
decreasing_by
  obtain ⟨eq, ne⟩ := readElement?_eq _h
  have := List.length_pos_iff.2 ne
  rw [eq, List.length_append]
  omega

def single? (bs : List UInt8) : Option Element :=
  match readElement? bs with
  | some (e, []) => some e
  | _ => none

/-- The elements inside one with the given tag. -/
def Element.inside? (e : Element) (tag : UInt8) : Option (List Element) :=
  if e.hasTag tag then elements? e.content else none

/-! ## Primitive contents -/

/-- Whether the two first octets of a number say no more than the second alone. -/
def isIdle : List UInt8 → Bool
  | a :: b :: _ => (a = 0 && b < 0x80) || (a = 0xFF && 0x80 ≤ b)
  | _ => false

/-- The integer in two's complement, without idle octets. -/
def integer? (bs : List UInt8) : Option Int :=
  match bs with
  | [] => none
  | b :: _ =>
    if isIdle bs then none
    else if b < 0x80 then some (unsigned bs)
    else some ((unsigned bs : Int) - Nat.pow 256 bs.length)

/-- Whether octets are the content of a bit string: the count of unused bits, which are zero. -/
def isBitString : List UInt8 → Bool
  | [] => false
  | unused :: bits =>
    match bits.getLast? with
    | none => unused = 0
    | some last => unused ≤ 7 && last.toNat % Nat.pow 2 unused.toNat == 0

/-- The numbers of an object identifier: at most 63 octets spell them, and each has at most 128
bits. -/
def numbers? (bs : List UInt8) : Option (List Nat) :=
  if bs.length ≤ 63 then (septets? 0 false bs).filter (·.all (fits 128)) else none

/-- The arcs of an object identifier. The first number holds the first two. -/
def objectId? (bs : List UInt8) : Option (List Nat) :=
  match numbers? bs with
  | some (n :: arcs) =>
    if n < 40 then some (0 :: n :: arcs)
    else if n < 80 then some (1 :: (n - 40) :: arcs)
    else some (2 :: (n - 80) :: arcs)
  | _ => none

end CertGate.Der
