import CertGate.Octets.Base64
import CertGate.Octets.Blank
import CertGate.Octets.Utf8

/-!
# PEM blocks

A block runs from a line `-----BEGIN label-----` to the line `-----END label-----`. Between them is
base64, in front of which headers may stand, a blank line behind them. What stands around the blocks
is ignored, and so is a last block that is cut off; every other block has to be well formed,
wherever it stands.

* `Pem.cut?` : what stands in front of a mark and what behind it, `cut?_eq_some` its law;
* `Pem.frames` : the blocks as they stand in the octets;
* `Pem.blocks?` : all blocks in order, or `none` if one of them is broken;
* `Pem.certificate?` : the content of the first block that is labelled as a certificate;
* `Pem.encode` : a block of given content, the base64 on one line.
-/

namespace CertGate.Pem

open Octets (ofAscii)

def beginMark : List UInt8 := ofAscii "-----BEGIN "

def endMark : List UInt8 := ofAscii "-----END "

def dashes : List UInt8 := ofAscii "-----"

/-- How many octets there are up to the end of a mark, of which `left` is still to come. An octet
that breaks off a mark is passed over, and the mark is looked for again behind it. -/
def markEnd? (mark : List UInt8) : List UInt8 → List UInt8 → Option Nat
  | [], _ => some 0
  | _ :: _, [] => none
  | a :: left, b :: bs => (markEnd? mark (if a = b then left else mark) bs).map (· + 1)

/-- The octets in front of a mark, and those behind it. -/
def cut? (mark bs : List UInt8) : Option (List UInt8 × List UInt8) :=
  (markEnd? mark mark bs).map fun n => (bs.take (n - mark.length), bs.drop n)

theorem eq_of_markEnd? {mark : List UInt8} (done left bs : List UInt8) {n : Nat}
    (whole : done ++ left = mark) (h : markEnd? mark left bs = some n) :
    n ≤ bs.length ∧ ∃ front, done ++ bs = front ++ mark ++ bs.drop n := by
  induction bs generalizing done left n with
  | nil =>
    cases left with
    | nil =>
      simp only [markEnd?, Option.some.injEq] at h
      exact ⟨by omega, [], by simp [← whole]⟩
    | cons a left => simp [markEnd?] at h
  | cons b bs ih =>
    cases left with
    | nil =>
      simp only [markEnd?, Option.some.injEq] at h
      subst h
      exact ⟨by simp, [], by simp [← whole]⟩
    | cons a left =>
      obtain ⟨m, hm, rfl⟩ := Option.map_eq_some_iff.1 h
      by_cases same : a = b
      · rw [if_pos same] at hm
        obtain ⟨le, front, eq⟩ := ih (done ++ [b]) left (by simp [← whole, same]) hm
        exact ⟨by simpa using le, front, by simpa using eq⟩
      · rw [if_neg same] at hm
        obtain ⟨le, front, eq⟩ := ih [] mark rfl hm
        refine ⟨by simpa using le, done ++ b :: front, ?_⟩
        simp only [List.nil_append] at eq
        simp only [List.drop_succ_cons, List.append_assoc, List.cons_append]
        rw [← List.append_assoc, ← eq]

/-- The two sides of the mark and the mark between them make up the octets. -/
theorem cut?_eq_some {mark bs front rest : List UInt8} (h : cut? mark bs = some (front, rest)) :
    bs = front ++ mark ++ rest := by
  obtain ⟨n, hn, he⟩ := Option.map_eq_some_iff.1 h
  obtain ⟨rfl, rfl⟩ := Prod.mk.inj he
  obtain ⟨le, found, eq⟩ := eq_of_markEnd? [] mark bs rfl hn
  have size := congrArg List.length eq
  simp only [List.nil_append, List.length_append, List.length_drop] at size
  have short : n - mark.length = found.length := by omega
  rw [List.nil_append] at eq
  rw [short]
  conv => lhs; rw [eq]
  conv => rhs; lhs; lhs; rw [eq]
  simp

theorem length_of_cut? {mark bs front rest : List UInt8}
    (h : cut? mark bs = some (front, rest)) : rest.length + mark.length ≤ bs.length := by
  rw [cut?_eq_some h]
  simp only [List.length_append]
  omega

/-- A block as it stands in the octets: what is between its marks. -/
structure Frame where
  label : List UInt8
  body : List UInt8
  closing : List UInt8
  deriving DecidableEq, Repr

/-- White space of ASCII that may follow a label. -/
def isGap (b : UInt8) : Bool := b == 9 || b == 10 || b == 13 || b == 32

def frame? (bs : List UInt8) : Option (Frame × List UInt8) := do
  let (_, bs) ← cut? beginMark bs
  let (label, bs) ← cut? dashes bs
  let (body, bs) ← cut? endMark (bs.dropWhile isGap)
  let (closing, bs) ← cut? dashes bs
  return (⟨label, body, closing⟩, bs)

/-- A block takes up octets, so fewer are left behind it. -/
theorem length_of_frame? {bs rest : List UInt8} {f : Frame} (h : frame? bs = some (f, rest)) :
    rest.length < bs.length := by
  simp only [frame?, Option.bind_eq_bind, Option.bind_eq_some_iff, Prod.exists] at h
  obtain ⟨_, inside, h₀, _, afterLabel, h₁, _, _, h₂, _, _, h₃, h₄⟩ := h
  have l₀ := length_of_cut? h₀
  have l₁ := length_of_cut? h₁
  have l₂ := length_of_cut? h₂
  have l₃ := length_of_cut? h₃
  have gap : (afterLabel.dropWhile isGap).length ≤ afterLabel.length :=
    (List.dropWhile_sublist _).length_le
  have mark : beginMark.length = 11 := by decide
  simp only [Option.pure_def, Option.some.injEq, Prod.mk.injEq] at h₄
  rw [← h₄.2]
  omega

def frames (bs : List UInt8) : List Frame :=
  match _h : frame? bs with
  | none => []
  | some (f, rest) => f :: frames rest
termination_by bs.length
decreasing_by exact length_of_frame? _h

/-- A block: its label and the octets that its base64 stands for. -/
structure Block where
  label : List UInt8
  content : List UInt8
  deriving DecidableEq, Repr

/-- The lines of headers, and the data behind the blank line that ends them. -/
def headersAndData (body : List UInt8) : List UInt8 × List UInt8 :=
  ((cut? [10, 10] body).or (cut? [13, 10, 13, 10] body)).getD ([], body)

def areHeaders (bs : List UInt8) : Bool :=
  let lines := bs.splitOn 10
  (if lines.getLast? = some [] then lines.dropLast else lines).all (58 ∈ ·)

/-- The octets of base64 with white space in it. -/
def data? (bs : List UInt8) : Option (List UInt8) := do
  let cs ← Utf8.decodeChars? bs
  let letters ← (cs.filter fun c => !Text.isSpace c).mapM fun c =>
    if c.toNat < 128 then some (UInt8.ofNat c.toNat) else none
  Base64.decode? letters

/-- The block of a frame: its labels have to be the same. -/
def Frame.block? (f : Frame) : Option Block :=
  let (headers, data) := headersAndData f.body
  let isText (bs : List UInt8) : Bool := (Utf8.decodeChars? bs).isSome
  if f.label.isEmpty || f.label ≠ f.closing || !isText f.label || !isText headers ||
      !areHeaders headers then none
  else (data? data).map (⟨f.label, ·⟩)

def blocks? (bs : List UInt8) : Option (List Block) := (frames bs).mapM Frame.block?

def certificateLabels : List (List UInt8) := [ofAscii "CERTIFICATE", ofAscii "X509 CERTIFICATE"]

def certificate? (bs : List UInt8) : Option (List UInt8) := do
  let blocks ← blocks? bs
  let b ← blocks.find? fun b => b.label ∈ certificateLabels
  return b.content

def isPem (bs : List UInt8) : Bool := (ofAscii "-----BEGIN").isPrefixOf bs

/-- A block of some content, with its base64 on one line. -/
def encode (label content : List UInt8) : List UInt8 :=
  beginMark ++ label ++ dashes ++ [10] ++ Base64.encode content ++ [10] ++ endMark ++ label ++
    dashes ++ [10]

end CertGate.Pem
