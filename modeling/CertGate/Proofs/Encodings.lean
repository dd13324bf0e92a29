import CertGate.Proofs.Admission
import CertGate.Proofs.PemBlock

/-!
# The two encodings of a certificate

A certificate may come as the octets of its encoding or as a block of base64. The blanks around the
data are trimmed before it is told which of the two it is. Around a block that changes nothing, but
the last octet of an encoding belongs to the signature, and it may be one that counts as a blank.

* `single?_append` : what an element takes up cannot be continued, so no encoding of a certificate is
  the beginning of another (`versioned?_append`);
* `readOctets_of_solid`, `readOctets_of_blank` : what is read of an encoding by its last octet;
* `Record.Alike` : two records that no one who asks them can tell apart;
* `alike_encodings_iff` : the two forms of a certificate are alike exactly if the encoding does not
  end in a blank.
-/

namespace CertGate

/-! ## Encodings and what follows them -/

namespace Der

theorem length?_append {bs : List UInt8} {taken size : Nat} (h : length? bs = some (taken, size))
    (more : List UInt8) : length? (bs ++ more) = some (taken, size) := by
  cases bs with
  | nil => cases h
  | cons b bs =>
    rw [List.cons_append]
    unfold length? at h ⊢
    dsimp only at h ⊢
    by_cases short : b.toNat < 128
    · rw [if_pos short] at h ⊢
      exact h
    · rw [if_neg short] at h ⊢
      rcases Nat.lt_or_ge bs.length (b.toNat - 128) with lacking | fits
      · -- a long form that lacks octets is no length, whatever follows
        have missing : (bs.take (b.toNat - 128)).length ≠ b.toNat - 128 := by
          rw [List.length_take]
          omega
        simp only [missing, decide_false, Bool.and_false, Bool.false_and, Bool.false_eq_true,
          if_false, reduceCtorEq] at h
      · rw [List.take_append_of_le_length fits]
        exact h

/-- An element of a row is found in front of anything. -/
theorem readElement?_append {bs rest : List UInt8} {e : Element}
    (h : readElement? (0x30 :: bs) = some (e, rest)) (more : List UInt8) :
    readElement? (0x30 :: bs ++ more) = some (e, rest ++ more) := by
  have tag : ∀ bs, tagTail? (0x30 :: bs) = some 0 := fun _ => rfl
  simp only [readElement?, List.cons_append, tag, Option.bind_eq_bind, Option.bind_some,
    Nat.add_zero, List.drop_succ_cons, List.drop_zero, Option.bind_eq_some_iff, Prod.exists] at h ⊢
  obtain ⟨taken, size, length, h⟩ := h
  refine ⟨taken, size, length?_append length more, ?_⟩
  split at h
  · next inside =>
    have longer : 1 + taken + size ≤ (0x30 :: bs ++ more).length := by
      rw [List.length_append]
      omega
    have enough : size ≤ ((0x30 :: bs).drop (1 + taken)).length := by
      rw [List.length_drop]
      omega
    rw [← List.cons_append, if_pos longer, List.take_append_of_le_length (by simp),
      List.drop_append_of_le_length (by omega), List.take_append_of_le_length enough,
      List.take_append_of_le_length inside, List.drop_append_of_le_length inside]
    simp only [Option.pure_def, Option.some.injEq, Prod.mk.injEq] at h ⊢
    exact ⟨h.1, congrArg (· ++ more) h.2⟩
  · cases h

theorem head_of_single? {bs : List UInt8} {e : Element} (h : single? bs = some e)
    (tag : e.hasTag 0x30 = true) : ∃ rest, bs = 0x30 :: rest := by
  unfold single? at h
  split at h
  · next found =>
    cases h
    cases bs with
    | nil => simp [readElement?, tagTail?] at found
    | cons b bs =>
      simp only [readElement?, Option.bind_eq_bind, Option.bind_eq_some_iff, Prod.exists] at found
      obtain ⟨more, -, taken, size, -, found⟩ := found
      split at found
      · simp only [Option.pure_def, Option.some.injEq, Prod.mk.injEq] at found
        obtain ⟨rfl, -⟩ := found
        have first : (b :: bs).take (1 + more) = [0x30] := by simpa [Element.hasTag] using tag
        rw [Nat.add_comm, List.take_succ_cons] at first
        exact ⟨bs, by rw [(List.cons.inj first).1]⟩
      · cases found
  · cases h

theorem single?_append {bs more : List UInt8} {e : Element} (h : single? bs = some e)
    (tag : e.hasTag 0x30 = true) (ne : more ≠ []) : single? (bs ++ more) = none := by
  obtain ⟨rest, rfl⟩ := head_of_single? h tag
  unfold single? at h ⊢
  split at h
  · next e' found =>
    rw [readElement?_append found more, List.nil_append]
    split
    · next same =>
      cases same
      exact absurd rfl ne
    · rfl
  · cases h

end Der

namespace Certificate

theorem single?_of_versioned? {bs : List UInt8} {read : Nat × Certificate}
    (h : versioned? bs = some read) : ∃ e, Der.single? bs = some e ∧ e.hasTag 0x30 = true := by
  obtain ⟨e, found, h⟩ := Option.bind_eq_some_iff.1 h
  obtain ⟨es, inside, -⟩ := Option.bind_eq_some_iff.1 h
  refine ⟨e, found, ?_⟩
  unfold Der.Element.inside? at inside
  split at inside
  · assumption
  · cases inside

/-- Nothing follows the encoding of a certificate. -/
theorem versioned?_append {bs more : List UInt8} {read : Nat × Certificate}
    (h : versioned? bs = some read) (ne : more ≠ []) : versioned? (bs ++ more) = none := by
  obtain ⟨e, found, tag⟩ := single?_of_versioned? h
  unfold versioned?
  rw [Der.single?_append found tag ne]
  rfl

theorem versioned?_of_ofDer {bs : List UInt8} {c : Certificate} (h : ofDer bs = .ok c) :
    ∃ version, versioned? bs = some (version, c) := by
  unfold ofDer at h
  split at h
  · cases h
  · next version c' found =>
    split at h
    · cases h
      exact ⟨version, found⟩
    · cases h

end Certificate

/-! ## Data in the two forms -/

namespace CertificateData
variable {bs d : List UInt8} {c : Certificate}

theorem readOctets_of_der? (found : der? bs = some d) (accepted : Certificate.ofDer d = .ok c) :
    readOctets bs = .ok c := by
  unfold der? at found
  unfold readOctets readTrimmed
  simp only [found, accepted]

theorem isPem_of_append {t more rest : List UInt8} (same : 0x30 :: rest = t ++ more) :
    Pem.isPem t = false := by
  cases t with
  | nil => rfl
  | cons b t =>
    rw [List.cons_append] at same
    rw [← (List.cons.inj same).1]
    rfl

theorem exists_head (accepted : Certificate.ofDer d = .ok c) : ∃ rest, d = 0x30 :: rest := by
  obtain ⟨version, found⟩ := Certificate.versioned?_of_ofDer accepted
  obtain ⟨e, single, tag⟩ := Certificate.single?_of_versioned? found
  exact Der.head_of_single? single tag

theorem head_solid (accepted : Certificate.ofDer d = .ok c) :
    ∀ b ∈ d.head?, Octets.isBlank b = false := by
  obtain ⟨rest, rfl⟩ := exists_head accepted
  rintro b ⟨⟩
  rfl

theorem readOctets_of_solid (accepted : Certificate.ofDer d = .ok c)
    (solid : ∀ b ∈ d.getLast?, Octets.isBlank b = false) : readOctets d = .ok c := by
  refine readOctets_of_der? ?_ accepted
  have whole : Octets.trim d = d := Text.trimBy_eq_self (head_solid accepted) solid
  obtain ⟨rest, rfl⟩ := exists_head accepted
  unfold der? derIn?
  simp only [whole, isPem_of_append (List.append_nil _).symm, Bool.false_eq_true, if_false]

/-- An encoding that ends in a blank is cut short, and what is left of it is none. -/
theorem readOctets_of_blank (accepted : Certificate.ofDer d = .ok c)
    (blank : ∃ b ∈ d.getLast?, Octets.isBlank b = true) :
    readOctets d = .error .unreadableCertificate := by
  obtain ⟨more, ne, parts⟩ := Text.exists_trimBy_append (head_solid accepted) blank
  obtain ⟨rest, first⟩ := exists_head accepted
  have cut : der? d = some (Octets.trim d) := by
    have der := isPem_of_append (first.symm.trans parts)
    unfold der? derIn?
    exact if_neg (by rw [Octets.trim, der]; decide)
  have nothing : Certificate.versioned? (Octets.trim d) = none := by
    -- the octets that were trimmed follow what is left, which is more than an encoding allows
    cases found : Certificate.versioned? (Octets.trim d) with
    | none => rfl
    | some read =>
      obtain ⟨version, all⟩ := Certificate.versioned?_of_ofDer accepted
      have none := Certificate.versioned?_append found ne
      rw [Octets.trim, ← parts, all] at none
      cases none
  have malformed : Certificate.ofDer (Octets.trim d) = .error .malformed := by
    rw [Certificate.ofDer, nothing]
  unfold der? at cut
  unfold readOctets readTrimmed
  simp only [cut, malformed]

end CertificateData

/-! ## Records that are alike -/

/-- No one who reads two records, or decides on chains that begin with them, can tell them apart. -/
structure Record.Alike (r r' : Record) : Prop where
  subject : r.subject = r'.subject
  issuer : r.issuer = r'.issuer
  serial : r.serial = r'.serial
  notBefore : r.notBefore = r'.notBefore
  notAfter : r.notAfter = r'.notAfter
  checkValidity : ∀ now, r.checkValidity now = r'.checkValidity now
  evaluate : ∀ (g : Gate) (path : Value) (rest : List Record) (now : Timestamp),
    g.evaluate path (.records (r :: rest)) now = g.evaluate path (.records (r' :: rest)) now

section Alike
variable {a b : CertificateData}

theorem field_of_same (same : a.read = b.read) (name : String)
    (ofCertificate : Certificate → Except Failure Value) (ofAttached : AttachedRecord → Reading) :
    Record.field name ofCertificate ofAttached (.certificate a) =
      Record.field name ofCertificate ofAttached (.certificate b) := by
  unfold Record.field
  simp only [same]

theorem evaluate_of_same {r r' : Record} {now : Timestamp}
    (check : r.checkValidity now = r'.checkValidity now) (subject : r.subject = r'.subject)
    (g : Gate) (path : Value) (rest : List Record) :
    g.evaluate path (.records (r :: rest)) now = g.evaluate path (.records (r' :: rest)) now := by
  have accept (c : Config) :
      accepts c (.records (r :: rest)) now = accepts c (.records (r' :: rest)) now := by
    rw [accepts_records, accepts_records, check]
    unfold subjectAccepted
    rw [subject]
  have decided (c : Config) :
      verdict c path (.records (r :: rest)) now = verdict c path (.records (r' :: rest)) now := by
    unfold verdict
    rw [accept]
  unfold Gate.evaluate
  split
  · exact decided _
  · rfl
  · rfl

theorem alike_of_read (same : a.read = b.read) :
    Record.Alike (.certificate a) (.certificate b) := by
  have check (now : Timestamp) :
      (Record.certificate a).checkValidity now = (Record.certificate b).checkValidity now := by
    unfold Record.checkValidity
    simp only [same]
  have subject : (Record.certificate a).subject = (Record.certificate b).subject :=
    field_of_same same _ _ _
  exact {
    subject := subject
    issuer := field_of_same same _ _ _
    serial := field_of_same same _ _ _
    notBefore := field_of_same same _ _ _
    notAfter := field_of_same same _ _ _
    checkValidity := check
    evaluate := fun g path rest now => evaluate_of_same (check now) subject g path rest }

theorem not_alike_of_read {f : Failure} {c : Certificate} (unread : a.read = .error f)
    (read : b.read = .ok c) : ¬ Record.Alike (.certificate a) (.certificate b) := by
  intro alike
  have serials : (a.read >>= fun c => .ok (Value.int c.serial)) =
      (b.read >>= fun c => .ok (Value.int c.serial)) := alike.serial
  rw [unread, read] at serials
  cases serials

end Alike

/-- The block of an encoding is always read. The encoding itself is, with the same results everywhere,
unless it ends in a blank. -/
theorem alike_encodings_iff {d block : List UInt8} {c : Certificate}
    (accepted : Certificate.ofDer d = .ok c) (form : Pem.Encloses d block) :
    (CertificateData.octets block).read = .ok c ∧
    (Record.Alike (.certificate (.octets d)) (.certificate (.octets block)) ↔
      ∀ b ∈ d.getLast?, Octets.isBlank b = false) ∧
    ((∀ b ∈ d.getLast?, Octets.isBlank b = false) → (CertificateData.octets d).read = .ok c) ∧
    ((∃ b ∈ d.getLast?, Octets.isBlank b = true) →
      (CertificateData.octets d).read = .error .unreadableCertificate) := by
  have block_read : (CertificateData.octets block).read = .ok c :=
    CertificateData.readOctets_of_der? (der?_of_encloses form) accepted
  have solid_read (solid : ∀ b ∈ d.getLast?, Octets.isBlank b = false) :
      (CertificateData.octets d).read = .ok c :=
    CertificateData.readOctets_of_solid accepted solid
  have blank_read (blank : ∃ b ∈ d.getLast?, Octets.isBlank b = true) :
      (CertificateData.octets d).read = .error .unreadableCertificate :=
    CertificateData.readOctets_of_blank accepted blank
  refine ⟨block_read, ⟨fun alike b last => ?_, fun solid => ?_⟩, solid_read, blank_read⟩
  · cases blank : Octets.isBlank b with
    | false => rfl
    | true => exact absurd alike (not_alike_of_read (blank_read ⟨b, last, blank⟩) block_read)
  · exact alike_of_read ((solid_read solid).trans block_read.symm)

/-- The octets of the sample certificate with a signature that ends in a given one. -/
def sampleDer (last : UInt8) : List UInt8 := [
  0x30, 0x55, 0x30, 0x48, 0x02, 0x01, 0x01, 0x30, 0x05, 0x06, 0x03, 0x2B, 0x65, 0x70, 0x30, 0x00,
  0x30, 0x1E, 0x17, 0x0D, 0x32, 0x34, 0x30, 0x31, 0x30, 0x31, 0x30, 0x30, 0x30, 0x30, 0x30, 0x30,
  0x5A, 0x17, 0x0D, 0x32, 0x35, 0x30, 0x31, 0x30, 0x31, 0x30, 0x30, 0x30, 0x30, 0x30, 0x30, 0x5A,
  0x30, 0x0E, 0x31, 0x0C, 0x30, 0x0A, 0x06, 0x03, 0x55, 0x04, 0x0B, 0x0C, 0x03, 0x45, 0x6E, 0x67,
  0x30, 0x0A, 0x30, 0x05, 0x06, 0x03, 0x2B, 0x65, 0x70, 0x03, 0x01, 0x00, 0x30, 0x05, 0x06, 0x03,
  0x2B, 0x65, 0x70, 0x03, 0x02, 0x00, last]

theorem ofDer_sampleDer_solid : Certificate.ofDer (sampleDer 0x21) = .ok sampleCertificate :=
  eq_ok_of_toOption (by decide +kernel)

theorem ofDer_sampleDer_blank : Certificate.ofDer (sampleDer 0x20) = .ok sampleCertificate :=
  eq_ok_of_toOption (by decide +kernel)

theorem alike_encodings_sampleDer :
    Certificate.ofDer (sampleDer 0x21) = .ok sampleCertificate ∧
      Pem.Encloses (sampleDer 0x21) (Pem.encode Pem.label (sampleDer 0x21)) ∧
      Record.Alike (.certificate (.octets (sampleDer 0x21)))
        (.certificate (.octets (Pem.encode Pem.label (sampleDer 0x21)))) := by
  have form : Pem.Encloses (sampleDer 0x21) (Pem.encode Pem.label (sampleDer 0x21)) :=
    Pem.encloses_encode (by simp [sampleDer])
  refine ⟨ofDer_sampleDer_solid, form, (alike_encodings_iff ofDer_sampleDer_solid form).2.1.2 ?_⟩
  rintro b ⟨⟩
  rfl

/-- A signature that ends in a space makes an encoding unreadable whose block is read. -/
theorem sampleDer_unlike_block :
    Certificate.ofDer (sampleDer 0x20) = .ok sampleCertificate ∧
      Pem.Encloses (sampleDer 0x20) (Pem.encode Pem.label (sampleDer 0x20)) ∧
      (CertificateData.octets (Pem.encode Pem.label (sampleDer 0x20))).read =
        .ok sampleCertificate ∧
      (CertificateData.octets (sampleDer 0x20)).read = .error .unreadableCertificate ∧
      ¬ Record.Alike (.certificate (.octets (sampleDer 0x20)))
        (.certificate (.octets (Pem.encode Pem.label (sampleDer 0x20)))) := by
  have form : Pem.Encloses (sampleDer 0x20) (Pem.encode Pem.label (sampleDer 0x20)) :=
    Pem.encloses_encode (by simp [sampleDer])
  have block_read : (CertificateData.octets (Pem.encode Pem.label (sampleDer 0x20))).read =
      .ok sampleCertificate :=
    CertificateData.readOctets_of_der? (der?_of_encloses form) ofDer_sampleDer_blank
  have unread : (CertificateData.octets (sampleDer 0x20)).read = .error .unreadableCertificate :=
    CertificateData.readOctets_of_blank ofDer_sampleDer_blank ⟨0x20, rfl, rfl⟩
  exact ⟨ofDer_sampleDer_blank, form, block_read, unread, not_alike_of_read unread block_read⟩

end CertGate
