import CertGate.Proofs.LeafOnly

/-!
# Certificates in the header of a proxy

A proxy escapes a certificate before it puts it into a header. Which characters it escapes is left to it, and so is
the case of every digit: whatever it does, the certificate is read that was sent.

* `Percent.Digit`, `Percent.Spells`, `Percent.Escapes` : the digits of a number, the escapes of octets, and the
  escaped forms of a text;
* `unescape_of_plain`, `unescape_of_spells` : characters that stand for themselves, and escapes, in front of
  anything else; from both, `decode_of_escapes`;
* `Request.carried` : the chain of one text;
* `forwarded_as_sent` : an escaped text in the header makes the chain, and the decision, that the text itself makes
  in the variable of the server.
-/

namespace CertGate
namespace Percent

/-- A hexadecimal digit of a number, the letters in either case. -/
inductive Digit (n : Nat) : Char → Prop
  | small : Digit n n.digitChar
  | capital : Digit n n.digitChar.toUpper

/-- The escapes of octets in a row. -/
inductive Spells : List UInt8 → List Char → Prop
  | nil : Spells [] []
  | cons {b : UInt8} {high low : Char} {bs : List UInt8} {es : List Char} (first : Digit (b.toNat / 16) high)
    (second : Digit (b.toNat % 16) low) (rest : Spells bs es) : Spells (b :: bs) ('%' :: high :: low :: es)

/-- An escaped form of a text. Every character stands for itself, unless it is the percent sign, or has all its octets
escaped. -/
inductive Escapes : List Char → List Char → Prop
  | nil : Escapes [] []
  | plain {c : Char} {cs es : List Char} (ne : c ≠ '%') (rest : Escapes cs es) : Escapes (c :: cs) (c :: es)
  | octets {c : Char} {cs front es : List Char} (whole : Spells (String.utf8EncodeChar c) front)
    (rest : Escapes cs es) : Escapes (c :: cs) (front ++ es)

/-! ## Characters that stand for themselves -/

theorem ne_percent_of_mem {c : Char} (ne : c ≠ '%') : ∀ b ∈ Utf8.encodeChar c, b ≠ 37 := by
  rintro b mem rfl
  have number := Utf8.toNat_of_mem_encodeChar mem (by decide)
  exact ne (Char.toNat_inj.1 number.symm)

theorem unescape_of_plain {bs : List UInt8} (plain : ∀ b ∈ bs, b ≠ 37) (rest : List UInt8) :
    unescape (bs ++ rest) = bs ++ unescape rest := by
  induction bs with
  | nil => rfl
  | cons b bs ih =>
    have ne : b ≠ 37 := plain b (by simp)
    rw [List.cons_append, unescape, ih fun b mem => plain b (by simp [mem]), List.cons_append]
    rintro _ _ _ same -
    exact ne same

/-! ## Escapes -/

theorem hexValue?_of_digit {n : Nat} {c : Char} (less : n < 16) (digit : Digit n c) :
    ∃ b, Utf8.encodeChar c = [b] ∧ hexValue? b = some n := by
  have small : ∀ n < 16, Utf8.encodeChar n.digitChar = [Utf8.octet n.digitChar.toNat] ∧
      hexValue? (Utf8.octet n.digitChar.toNat) = some n := by decide
  have capital : ∀ n < 16, Utf8.encodeChar n.digitChar.toUpper = [Utf8.octet n.digitChar.toUpper.toNat] ∧
      hexValue? (Utf8.octet n.digitChar.toUpper.toNat) = some n := by decide
  cases digit with
  | small => exact ⟨_, small n less⟩
  | capital => exact ⟨_, capital n less⟩

theorem unescape_of_spells {bs : List UInt8} {es : List Char} (spells : Spells bs es) (rest : List UInt8) :
    unescape (es.flatMap Utf8.encodeChar ++ rest) = bs ++ unescape rest := by
  induction spells with
  | nil => rfl
  | @cons b high low bs es first second _ ih =>
    obtain ⟨h, high_octet, high_value⟩ := hexValue?_of_digit (by have := b.toNat_lt; omega) first
    obtain ⟨l, low_octet, low_value⟩ := hexValue?_of_digit (by omega) second
    have sign : Utf8.encodeChar '%' = [37] := rfl
    have whole : b.toNat / 16 * 16 + b.toNat % 16 = b.toNat := by omega
    have pair : pair? h l = some b := by
      rw [pair?, high_value, low_value]
      show some (UInt8.ofNat (b.toNat / 16 * 16 + b.toNat % 16)) = some b
      rw [whole, UInt8.ofNat_toNat]
    rw [List.flatMap_cons, List.flatMap_cons, List.flatMap_cons, sign, high_octet, low_octet]
    simp only [List.cons_append, List.nil_append]
    rw [unescape, pair]
    simp only [ih]

/-! ## Texts -/

theorem unescape_of_escapes {cs es : List Char} (escapes : Escapes cs es) :
    unescape (es.flatMap Utf8.encodeChar) = cs.flatMap Utf8.encodeChar := by
  induction escapes with
  | nil => rfl
  | plain ne _ ih =>
    rw [List.flatMap_cons, unescape_of_plain (ne_percent_of_mem ne), ih, List.flatMap_cons]
  | octets whole _ ih =>
    rw [List.flatMap_append, unescape_of_spells whole, ih, List.flatMap_cons, Utf8.encodeChar_eq]

/-- Every escaped form of a text is read as this text. -/
theorem decode_of_escapes {t e : String} (escapes : Escapes t.toList e.toList) : decode e = t := by
  have octets : unescape (Utf8.encode e) = Utf8.encode t := unescape_of_escapes escapes
  rw [decode, decodeOctets, octets, Utf8.decodeLossy_encode]

theorem eq_nil_iff_of_escapes {cs es : List Char} (escapes : Escapes cs es) : es = [] ↔ cs = [] := by
  cases escapes with
  | nil => exact Iff.rfl
  | plain => simp
  | @octets c cs front es whole =>
    obtain ⟨b, bs, octets, -⟩ := Utf8.read_encodeChar c
    rw [← Utf8.encodeChar_eq, octets] at whole
    cases whole
    simp

end Percent

/-! ## The chain of one text -/

namespace Request

/-- The chain of the certificate in a text, or none without one. -/
def carried (t : String) : Option (List Record) :=
  if t = "" then none else some [.certificate (.octets (Utf8.encode t))]

theorem given?_of_blank (name other : String) : given? [(name, .text "")] other = none := by
  unfold given?
  rw [List.lookup_cons]
  cases other == name <;> rfl

theorem given?_of_other {name other : String} (ne : other ≠ name) (v : Value) : given? [(name, v)] other = none := by
  unfold given?
  rw [List.lookup_cons, beq_false_of_ne ne]
  rfl

theorem forwarded_of_blank (name : String) (header? : Option String) :
    forwarded [(name, .text "")] (.ofText? header?) = .ok none := by
  cases header? with
  | none => exact forwarded_of_unnamed (.inl rfl)
  | some header =>
    by_cases set : header = ""
    · exact forwarded_of_unnamed (.inr (congrArg some set))
    · rw [forwarded_of_named set, given?_of_blank]

/-- A text in the variable of the server. -/
theorem presented_of_sent (t : String) (header? : Option String) :
    presented [(leafVariable, .text t)] (.ofText? header?) = .ok (carried t) := by
  unfold carried
  by_cases empty : t = ""
  · rw [if_pos empty, empty, presented_of_bare (given?_of_blank _ _), forwarded_of_blank]
  · have served : given? [(leafVariable, .text t)] leafVariable = some (.text t) :=
      given?_of_text List.lookup_cons_self empty
    have alone := given?_of_other (leafVariable_ne_chainVariable 0).symm (.text t)
    rw [if_neg empty, presented_of_served served]
    simp only [List.length_singleton, numbered, alone]
    rfl

/-- An escaped form of it in the header of a proxy. -/
theorem presented_of_escapes {t e name : String} (escapes : Percent.Escapes t.toList e.toList) (set : name ≠ "")
    (other : name ≠ leafVariable) : presented [(name, .text e)] (.ofText? (some name)) = .ok (carried t) := by
  have empty_iff : e = "" ↔ t = "" := by
    rw [← String.toList_eq_nil_iff, ← String.toList_eq_nil_iff]
    exact Percent.eq_nil_iff_of_escapes escapes
  rw [presented_of_bare (given?_of_other other.symm _)]
  unfold carried
  by_cases empty : e = ""
  · rw [if_pos (empty_iff.1 empty), empty, forwarded_of_blank]
  · have found : given? [(name, .text e)] name = some (.text e) := given?_of_text List.lookup_cons_self empty
    rw [if_neg (mt empty_iff.2 empty), forwarded_of_named set, found]
    show Except.ok (some [Record.certificate (.octets (Utf8.encode (Percent.decode e)))]) = _
    rw [Percent.decode_of_escapes escapes]

end Request

/-- A text that is escaped for the header of a proxy, in whatever way, makes the chain that the text itself makes in
the variable of the server: one record of its octets, or no chain if it is empty. So every gate gives both requests
one answer, and leaves one trail. -/
theorem forwarded_as_sent {t e name : String} (escapes : Percent.Escapes t.toList e.toList) (set : name ≠ "")
    (other : name ≠ leafVariable) (header? : Option String) {r : Request} (unattached : r.attached = .value .null) :
    { r with vars := [(name, .text e)] }.chain? (.text name) = .ok (Request.carried t) ∧
      { r with vars := [(leafVariable, .text t)] }.chain? (.ofText? header?) = .ok (Request.carried t) ∧
      ∀ (gate : Gate) (now : Timestamp),
        Guard.check ⟨.text name, gate⟩ now { r with vars := [(name, .text e)] } =
          Guard.check ⟨.ofText? header?, gate⟩ now { r with vars := [(leafVariable, .text t)] } := by
  have forwarded : { r with vars := [(name, .text e)] }.chain? (.text name) = .ok (Request.carried t) := by
    refine (Request.chain?_of_unattached ?_ _).trans (Request.presented_of_escapes escapes set other)
    exact unattached
  have sent : { r with vars := [(leafVariable, .text t)] }.chain? (.ofText? header?) =
      .ok (Request.carried t) := by
    refine (Request.chain?_of_unattached ?_ _).trans (Request.presented_of_sent t header?)
    exact unattached
  refine ⟨forwarded, sent, fun gate now => ?_⟩
  unfold Guard.check
  rw [forwarded, sent]

/-- The first character is escaped in both cases, the percent sign has what looks like digits behind it, and the last
character stands for itself. -/
theorem escapes_mixed : Percent.Escapes "é+%41é".toList "%c3%A9+%2541é".toList := by
  have accent : Percent.Spells (String.utf8EncodeChar 'é') ['%', 'c', '3', '%', 'A', '9'] :=
    .cons .small .small (.cons .capital .small .nil)
  have percent : Percent.Spells (String.utf8EncodeChar '%') ['%', '2', '5'] := .cons .small .small .nil
  have rest : Percent.Escapes ['4', '1', 'é'] ['4', '1', 'é'] :=
    .plain (by decide) (.plain (by decide) (.plain (by decide) .nil))
  exact .octets accent (.plain (by decide) (.octets percent rest))

theorem forwarded_as_sent_mixed :
    Percent.Escapes "é+%41é".toList "%c3%A9+%2541é".toList ∧ "HTTP_X_CERT" ≠ "" ∧ "HTTP_X_CERT" ≠ leafVariable ∧
      sampleRequest.attached = .value .null ∧
      { sampleRequest with vars := [("HTTP_X_CERT", .text "%c3%A9+%2541é")] }.chain? (.text "HTTP_X_CERT") =
        .ok (some [.certificate (.octets (Utf8.encode "é+%41é"))]) := by
  have set : "HTTP_X_CERT" ≠ "" := by decide
  have other : "HTTP_X_CERT" ≠ leafVariable := by decide
  obtain ⟨forwarded, -, -⟩ := forwarded_as_sent escapes_mixed set other none (r := sampleRequest) rfl
  exact ⟨escapes_mixed, set, other, rfl, forwarded⟩

end CertGate
