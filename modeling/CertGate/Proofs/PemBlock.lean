import CertGate.Record

/-!
# The content of a block

A text that consists of one block labelled as a certificate, with blanks around it, is read as the
octets that are spelled between its marks.

* `Pem.cut?_mark` : a mark is found where its first octet occurs first;
* `Pem.data?_of_ascii` : data of ASCII is base64 with its blanks left out;
* `Pem.Spells`, `Pem.Encloses` : what may stand between the marks of a block for some content, and
  the block with what may stand around it, `encloses_encode` the plainest of them;
* `der?_of_encloses` : the content is what is read.
-/

namespace CertGate

namespace Pem

open Octets (ofAscii isBlank)

section Marks
variable {a : UInt8} {left front rest : List UInt8}

theorem markEnd?_mark (mark left rest : List UInt8) :
    markEnd? mark left (left ++ rest) = some left.length := by
  induction left with
  | nil => cases rest <;> rfl
  | cons a left ih =>
    rw [List.cons_append, markEnd?, if_pos rfl, ih]
    rfl

theorem markEnd?_front (absent : a ∉ front) :
    markEnd? (a :: left) (a :: left) (front ++ rest) =
      (markEnd? (a :: left) (a :: left) rest).map (front.length + ·) := by
  induction front with
  | nil => simp
  | cons b front ih =>
    have differs : a ≠ b := fun same => absent (by simp [same])
    have apart : a ∉ front := fun mem => absent (by simp [mem])
    rw [List.cons_append, markEnd?, if_neg differs, ih apart, Option.map_map]
    congr 1
    funext n
    show front.length + n + 1 = (b :: front).length + n
    rw [List.length_cons]
    omega

theorem cut?_mark (absent : a ∉ front) :
    cut? (a :: left) (front ++ (a :: left ++ rest)) = some (front, rest) := by
  rw [cut?, markEnd?_front absent, markEnd?_mark]
  simp only [Option.map_some, Option.some.injEq, Prod.mk.injEq, Nat.add_sub_cancel]
  refine ⟨List.take_left, ?_⟩
  rw [← List.append_assoc, ← List.length_append, List.drop_left]

theorem cut?_eq_none {mark bs : List UInt8} (absent : ¬ mark <:+: bs) : cut? mark bs = none := by
  cases found : cut? mark bs with
  | none => rfl
  | some sides => exact absurd ⟨sides.1, sides.2, (cut?_eq_some found).symm⟩ absent

end Marks

section Data
variable {bs : List UInt8}

theorem toNat_ofNat : ∀ n < 128, (Char.ofNat n).toNat = n := by decide +kernel

theorem isSpace_ofNat : ∀ n < 128, Text.isSpace (Char.ofNat n) = isBlank (UInt8.ofNat n) := by
  decide +kernel

theorem mapM_ofNat (ascii : ∀ b ∈ bs, b.toNat < 128) :
    (bs.map fun b => Char.ofNat b.toNat).mapM
      (fun c => if c.toNat < 128 then some (UInt8.ofNat c.toNat) else none) = some bs := by
  induction bs with
  | nil => rfl
  | cons b bs ih =>
    have low := ascii b (by simp)
    rw [List.map_cons, List.mapM_cons, toNat_ofNat _ low, if_pos low, UInt8.ofNat_toNat,
      ih fun c mem => ascii c (by simp [mem])]
    rfl

theorem data?_of_ascii (ascii : ∀ b ∈ bs, b.toNat < 128) :
    data? bs = Base64.decode? (bs.filter fun b => !isBlank b) := by
  have letters : (bs.map fun b => Char.ofNat b.toNat).filter (fun c => !Text.isSpace c) =
      (bs.filter fun b => !isBlank b).map fun b => Char.ofNat b.toNat := by
    rw [List.filter_map]
    congr 1
    refine List.filter_congr fun b mem => ?_
    show (!Text.isSpace (Char.ofNat b.toNat)) = !isBlank b
    rw [isSpace_ofNat _ (ascii b mem), UInt8.ofNat_toNat]
  have rest := @mapM_ofNat (bs.filter fun b => !isBlank b) fun b mem =>
    ascii b (List.mem_filter.1 mem).1
  rw [data?, Utf8.decodeChars?_of_ascii ascii]
  simp only [Option.bind_eq_bind, Option.bind_some, letters, rest]

end Data

/-! ## One block -/

/-- The label of a certificate. -/
def label : List UInt8 := ofAscii "CERTIFICATE"

/-- A certificate with a given text between its marks. -/
def frameText (body : List UInt8) : List UInt8 :=
  beginMark ++ (label ++ (dashes ++ (body ++ (endMark ++ (label ++ dashes)))))

/-- A text spells some content in base64. Blanks may break it up, but there is no blank line in it,
which would end headers. -/
structure Spells (content body : List UInt8) : Prop where
  letters : (body.filter fun b => !isBlank b) = Base64.encode content
  dense : ¬ [10, 10] <:+: body
  dense' : ¬ [13, 10, 13, 10] <:+: body

/-- The texts that are one block of some content with blanks around it. -/
inductive Encloses (content : List UInt8) : List UInt8 → Prop
  | block {before body after : List UInt8} (front : ∀ b ∈ before, isBlank b = true)
    (spelled : Spells content body) (back : ∀ b ∈ after, isBlank b = true) :
    Encloses content (before ++ frameText body ++ after)

section Block
variable {content body : List UInt8}

theorem letter_plain : ∀ n < 64, Base64.letter n ≠ 45 ∧ (Base64.letter n).toNat < 128 ∧
    isBlank (Base64.letter n) = false := by
  decide

/-- What base64 is made of is no dash and no blank. -/
theorem encode_plain {b : UInt8} (mem : b ∈ Base64.encode content) :
    b ≠ 45 ∧ b.toNat < 128 ∧ isBlank b = false := by
  rcases Base64.mem_encode mem with rfl | ⟨n, low, rfl⟩
  · decide
  · exact letter_plain n low

theorem blank_plain {b : UInt8} (blank : isBlank b = true) : b ≠ 45 ∧ b.toNat < 128 := by
  simp only [isBlank, Bool.or_eq_true, Bool.and_eq_true, decide_eq_true_eq, beq_iff_eq,
    UInt8.le_iff_toNat_le] at blank
  constructor
  · rintro rfl
    simp at blank
  · rcases blank with ⟨-, high⟩ | rfl
    · exact Nat.lt_of_le_of_lt high (by decide)
    · decide

theorem Spells.plain (spelled : Spells content body) {b : UInt8} (mem : b ∈ body) :
    b ≠ 45 ∧ b.toNat < 128 := by
  cases blank : isBlank b with
  | true => exact blank_plain blank
  | false =>
    have letter : b ∈ Base64.encode content := by
      rw [← spelled.letters, List.mem_filter]
      exact ⟨mem, by simp [blank]⟩
    obtain ⟨ne, low, -⟩ := encode_plain letter
    exact ⟨ne, low⟩

theorem gap_blank {b : UInt8} (gap : isGap b = true) : isBlank b = true := by
  simp only [isGap, Bool.or_eq_true, beq_iff_eq] at gap
  rcases gap with ((rfl | rfl) | rfl) | rfl <;> decide

/-- White space that follows the label is not part of what is spelled. -/
theorem Spells.dropWhile (spelled : Spells content body) :
    Spells content (body.dropWhile isGap) := by
  have suffix := List.dropWhile_suffix isGap (l := body)
  refine ⟨?_, fun found => spelled.dense (found.trans suffix.isInfix),
    fun found => spelled.dense' (found.trans suffix.isInfix)⟩
  rw [← spelled.letters]
  conv => rhs; rw [← List.takeWhile_append_dropWhile (p := isGap) (l := body)]
  have gaps : ((body.takeWhile isGap).filter fun b => !isBlank b) = [] := by
    rw [List.filter_eq_nil_iff]
    intro b mem
    simp [gap_blank (List.all_eq_true.1 List.all_takeWhile b mem)]
  rw [List.filter_append, gaps, List.nil_append]

theorem Spells.frame? (spelled : Spells content body) :
    Pem.frame? (frameText body) = some (⟨label, body.dropWhile isGap, label⟩, []) := by
  -- neither the label nor the body has a dash in it, so each mark is found where it stands
  have opening : cut? beginMark (frameText body) =
      some ([], label ++ (dashes ++ (body ++ (endMark ++ (label ++ dashes))))) :=
    @cut?_mark 45 _ [] _ (by simp)
  have labelled : cut? dashes (label ++ (dashes ++ (body ++ (endMark ++ (label ++ dashes))))) =
      some (label, body ++ (endMark ++ (label ++ dashes))) := cut?_mark (by decide)
  have gap : (body ++ (endMark ++ (label ++ dashes))).dropWhile isGap =
      body.dropWhile isGap ++ (endMark ++ (label ++ dashes)) := by
    rw [List.dropWhile_append]
    split
    · next none =>
      rw [List.isEmpty_iff.1 none]
      rfl
    · rfl
  have spelt : cut? endMark (body.dropWhile isGap ++ (endMark ++ (label ++ dashes))) =
      some (body.dropWhile isGap, label ++ dashes) :=
    cut?_mark fun mem => (spelled.dropWhile.plain mem).1 rfl
  have closing : cut? dashes (label ++ dashes) = some (label, []) := by decide
  unfold Pem.frame?
  simp only [opening, labelled, gap, spelt, closing, Option.bind_eq_bind, Option.bind_some, Option.pure_def]

theorem frames_of_frame? {bs rest : List UInt8} {f : Frame} (h : Pem.frame? bs = some (f, rest)) :
    frames bs = f :: frames rest := by
  rw [frames]
  split
  · next none =>
    rw [none] at h
    cases h
  · next some =>
    rw [some] at h
    cases h
    rfl

theorem frames_nil : frames [] = [] := by
  rw [frames]
  rfl

theorem Spells.block? (spelled : Spells content body) :
    Frame.block? ⟨label, body, label⟩ = some ⟨label, content⟩ := by
  have plain : headersAndData body = ([], body) := by
    rw [headersAndData, cut?_eq_none spelled.dense, cut?_eq_none spelled.dense']
    rfl
  have read : data? body = some content := by
    rw [data?_of_ascii fun b mem => (spelled.plain mem).2, spelled.letters,
      Base64.decode?_encode]
  have readable : (Utf8.decodeChars? label).isSome = true := by
    rw [Utf8.decodeChars?_of_ascii (by decide +kernel)]
    rfl
  have headless : (Utf8.decodeChars? []).isSome = true := by rw [Utf8.decodeChars?, Option.isSome]
  have colons : areHeaders [] = true := by rfl
  have named : label.isEmpty = false := by rfl
  unfold Frame.block?
  simp only [plain, read, readable, headless, colons, named, ne_eq, not_true, decide_false,
    Bool.not_true, Bool.or_false, Bool.false_eq_true, if_false, Option.map_some]

theorem Spells.certificate? (spelled : Spells content body) :
    Pem.certificate? (frameText body) = some content := by
  have blocks : blocks? (frameText body) = some [⟨label, content⟩] := by
    rw [blocks?, frames_of_frame? spelled.frame?, frames_nil, List.mapM_cons,
      spelled.dropWhile.block?]
    rfl
  have labelled : label ∈ certificateLabels := by decide
  unfold Pem.certificate?
  simp only [blocks, Option.bind_eq_bind, Option.bind_some, List.find?_cons, labelled, decide_true]
  rfl

end Block

/-! ## Blocks in lines -/

section Lines
variable {content : List UInt8} {lines : List (List UInt8)}

theorem infix_of_infix_append {l m : List UInt8} (absent : 10 ∉ l) (h : [10, 10] <:+: l ++ m) :
    [10, 10] <:+: m := by
  induction l with
  | nil => exact h
  | cons b l ih =>
    rw [List.cons_append, List.infix_cons_iff, List.cons_prefix_cons] at h
    rcases h with ⟨rfl, -⟩ | h
    · exact absurd absent (by simp)
    · exact ih (fun mem => absent (by simp [mem])) h

theorem no_blank_line (full : ∀ l ∈ lines, l ≠ []) (unbroken : ∀ l ∈ lines, 10 ∉ l) :
    ¬ [10, 10] <:+: 10 :: lines.flatMap (· ++ [10]) := by
  induction lines with
  | nil => decide
  | cons l lines ih =>
    have rest := ih (fun k mem => full k (by simp [mem])) fun k mem => unbroken k (by simp [mem])
    have absent := unbroken l (by simp)
    rw [List.flatMap_cons, List.append_assoc, List.singleton_append, List.infix_cons_iff]
    rintro (first | later)
    · -- a line follows the break, and it is not empty
      cases l with
      | nil => exact full [] (by simp) rfl
      | cons b l =>
        rw [List.cons_prefix_cons, List.cons_append, List.cons_prefix_cons] at first
        exact absent (by simp [first.2.1])
    · exact rest (infix_of_infix_append absent later)

theorem filter_lines (letters : ∀ l ∈ lines, ∀ b ∈ l, isBlank b = false) :
    ((lines.flatMap (· ++ [10])).filter fun b => !isBlank b) = lines.flatten := by
  induction lines with
  | nil => rfl
  | cons l lines ih =>
    have kept : (l.filter fun b => !isBlank b) = l := by
      rw [List.filter_eq_self]
      intro b mem
      simp [letters l (by simp) b mem]
    have gone : (([10] : List UInt8).filter fun b => !isBlank b) = [] := by decide
    rw [List.flatMap_cons, List.filter_append, List.filter_append, kept, gone, List.append_nil,
      ih fun k mem => letters k (by simp [mem]), List.flatten_cons]

/-- Base64 in lines of any lengths spells the content. -/
theorem spells_lines (full : ∀ l ∈ lines, l ≠ []) (joined : lines.flatten = Base64.encode content) :
    Spells content (10 :: lines.flatMap (· ++ [10])) := by
  have letters : ∀ l ∈ lines, ∀ b ∈ l, isBlank b = false := by
    intro l hl b hb
    have mem : b ∈ Base64.encode content := by
      rw [← joined]
      exact List.mem_flatten.2 ⟨l, hl, hb⟩
    exact (encode_plain mem).2.2
  refine ⟨?_, no_blank_line full fun l hl mem => ?_, fun found => ?_⟩
  · rw [← joined, ← filter_lines letters]
    rfl
  · exact absurd (letters l hl 10 mem) (by decide)
  · have mem : (13 : UInt8) ∈ 10 :: lines.flatMap (· ++ [10]) := found.subset (by simp)
    simp only [List.mem_cons, List.mem_flatMap, List.mem_append, List.not_mem_nil, or_false] at mem
    rcases mem with same | ⟨l, hl, hb | same⟩
    · exact absurd same (by decide)
    · exact absurd (letters l hl 13 hb) (by decide)
    · exact absurd same (by decide)

theorem encloses_encode (full : content ≠ []) : Encloses content (encode label content) := by
  have spelled : Spells content (10 :: [Base64.encode content].flatMap (· ++ [10])) := by
    refine spells_lines (fun l mem => ?_) (by simp)
    rw [List.mem_singleton.1 mem]
    exact Base64.encode_ne_nil full
  have blank : ∀ b ∈ ([10] : List UInt8), isBlank b = true := by simp [isBlank]
  have whole := @Encloses.block content [] _ [10] (by simp) spelled blank
  have same : [] ++ frameText (10 :: [Base64.encode content].flatMap (· ++ [10])) ++ [10] =
      encode label content := by
    simp [frameText, encode]
  rwa [same] at whole

end Lines
end Pem

open Pem (frameText)

/-- One block with blanks around it is read as its content. -/
theorem der?_of_encloses {content block : List UInt8} (form : Pem.Encloses content block) :
    CertificateData.der? block = some content := by
  obtain @⟨before, body, after, front, spelled, back⟩ := form
  have core : Octets.trim (frameText body) = frameText body := by
    apply Text.trimBy_eq_self
    · intro b first
      cases first
      rfl
    · intro b last
      have ends : (frameText body).getLast? = some 45 := by
        have dash : Pem.dashes.getLast? = some 45 := by rfl
        simp only [frameText, List.getLast?_append, dash, Option.some_or]
      rw [ends] at last
      cases last
      rfl
  have trimmed : Octets.trim (before ++ frameText body ++ after) = frameText body :=
    (Text.trimBy_surrounded front back).trans core
  have pem : Pem.isPem (frameText body) = true := by rfl
  unfold CertificateData.der? CertificateData.derIn?
  simp only [trimmed, pem, if_true]
  exact spelled.certificate?

end CertGate
