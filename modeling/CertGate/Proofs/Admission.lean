import CertGate.Proofs.Verdict

/-!
# Which certificates are admitted

* `Certificate.Admits` : what a certificate has to satisfy at some moment, in terms of what it says;
* `checkValidity_eq_ok_iff` : the check of the validity, both bounds included;
* `samplePem` : a small certificate in its text form, with what is read from it;
* `result_accepts_certificate` : a chain that begins with the data of a certificate is accepted or
  not, without failure, and accepted exactly if the data is a certificate that is admitted.
-/

namespace CertGate
namespace Certificate

variable {c : Certificate} {now : Moment}

/-- What makes a certificate good at a moment: the moment lies between its bounds, and its subject
can be read and holds a text, if one is asked for. -/
structure Admits (c : Certificate) (part? : Option String) (now : Moment) : Prop where
  within : ∃ start finish, c.notBefore? = some start ∧ c.notAfter? = some finish ∧
    start.rank ≤ now.rank ∧ now.rank ≤ finish.rank
  named : ∀ part, part? = some part →
    ∃ name before after, c.subject.text = .ok name ∧ name = before ++ part ++ after

theorem rank?_universal (m : Moment) : (Timestamp.universal m).rank? = some (m.rank : Int) := by
  have shifted : (Timestamp.universal m).rank? = some ((m.rank : Int) - 0) := rfl
  rw [shifted]
  -- the rank is a large product, which is not to be computed
  generalize m.rank = n
  rw [Int.sub_zero]

theorem checkValidity_of_rank {t : Timestamp} {n : Int} (known : t.rank? = some n) :
    c.checkValidity t = showBound c.notBefore? >>= fun start =>
      if n < start.rank then .error (.tooEarly start)
      else showBound c.notAfter? >>= fun finish =>
        if (finish.rank : Int) < n then .error (.tooLate finish) else .ok () := by
  unfold checkValidity
  rw [known]
  rfl

theorem checkValidity_eq_ok_iff {t : Timestamp} {n : Int} (known : t.rank? = some n) :
    c.checkValidity t = .ok () ↔
      ∃ start finish, c.notBefore? = some start ∧ c.notAfter? = some finish ∧
        (start.rank : Int) ≤ n ∧ n ≤ finish.rank := by
  rw [checkValidity_of_rank known]
  cases c.notBefore? with
  | none => simp [showBound]
  | some start =>
    have shown : showBound (some start) = .ok start := rfl
    rw [shown, ok_bind]
    by_cases early : n < start.rank
    · rw [if_pos early]
      constructor
      · intro h
        cases h
      · rintro ⟨_, finish, same, _, begun, _⟩
        cases same
        exact absurd early (Int.not_lt.2 begun)
    · rw [if_neg early]
      cases c.notAfter? with
      | none => simp [showBound]
      | some finish =>
        have shown : showBound (some finish) = .ok finish := rfl
        rw [shown, ok_bind]
        by_cases late : (finish.rank : Int) < n
        · rw [if_pos late]
          constructor
          · intro h
            cases h
          · rintro ⟨_, _, _, same, _, lasts⟩
            cases same
            exact absurd late (Int.not_lt.2 lasts)
        · rw [if_neg late]
          exact ⟨fun _ => ⟨start, finish, rfl, rfl, Int.not_lt.1 early, Int.not_lt.1 late⟩,
            fun _ => rfl⟩

theorem checkValidity_universal_eq_ok_iff :
    c.checkValidity (.universal now) = .ok () ↔
      ∃ start finish, c.notBefore? = some start ∧ c.notAfter? = some finish ∧
        start.rank ≤ now.rank ∧ now.rank ≤ finish.rank := by
  rw [checkValidity_eq_ok_iff (rank?_universal now)]
  simp only [Int.ofNat_le]

theorem showName_eq_ok_iff {n : DistinguishedName} {name : String} :
    showName n = .ok name ↔ n.text = .ok name := by
  unfold showName
  cases n.text with
  | ok s => simp
  | error d => cases d <;> simp

end Certificate

/-! ## A small certificate -/

/-- The text of a certificate for the unit `Eng` and the year 2024. -/
def samplePem : String :=
  "-----BEGIN CERTIFICATE-----\n" ++
  "MFQwSAIBATAFBgMrZXAwADAeFw0yNDAxMDEwMDAwMDBaFw0yNTAxMDEwMDAwMDBaMA4xDDAKBgNVBAsMA0VuZzAK" ++
  "MAUGAytlcAMBADAFBgMrZXADAQA=\n-----END CERTIFICATE-----\n"

def sampleCertificate : Certificate where
  serial := 1
  issuer := ⟨[]⟩
  subject := ⟨[[⟨[2, 5, 4, 11], .octets [69, 110, 103]⟩]]⟩
  notBefore? := some ⟨⟨2024, 1, 1, by decide⟩, 0, 0⟩
  notAfter? := some ⟨⟨2025, 1, 1, by decide⟩, 0, 0⟩

theorem read_samplePem :
    (CertificateData.ofValue (.text samplePem)).read = .ok sampleCertificate :=
  eq_ok_of_toOption (by decide +kernel)

/-- Noon of a day within the year of the sample. -/
def sampleNoon : Moment := ⟨⟨2024, 6, 15, by decide⟩, 43200, 0⟩

theorem admits_sampleCertificate : sampleCertificate.Admits (some "OU=Eng") sampleNoon where
  within := ⟨_, _, rfl, rfl, by decide +kernel, by decide +kernel⟩
  named := by
    rintro _ ⟨⟩
    exact ⟨"OU=Eng", "", "", eq_ok_of_toOption (by decide +kernel), by decide⟩

/-! ## Chains that begin with a certificate -/

variable {data : CertificateData} {cert : Certificate}

section Field
variable {name : String} {ofCertificate : Certificate → Except Failure Value}
  {ofAttached : AttachedRecord → Reading}

theorem field_of_read (read : data.read = .ok cert) :
    Record.field name ofCertificate ofAttached (.certificate data) = ofCertificate cert := by
  unfold Record.field
  simp only [read, ok_bind]

theorem field_of_unread {f : Failure} (unread : data.read = .error f) :
    Record.field name ofCertificate ofAttached (.certificate data) = .error f := by
  unfold Record.field
  simp only [unread, error_bind]

end Field

theorem subject_certificate (read : data.read = .ok cert) :
    (Record.certificate data).subject = Value.text <$> Certificate.showName cert.subject := by
  rw [Record.subject, field_of_read read]
  cases Certificate.showName cert.subject <;> rfl

/-- Whether the subject of a certificate is accepted never fails. -/
theorem result_subjectAccepted_certificate (read : data.read = .ok cert) (part? : Option String) :
    ∃ accepted, (subjectAccepted (.ofText? part?) (.certificate data)).result = .ok accepted ∧
      (accepted = true ↔ ∀ part, part? = some part →
        ∃ name before after, cert.subject.text = .ok name ∧ name = before ++ part ++ after) := by
  rw [result_subjectAccepted, subject_certificate read]
  cases part? with
  | none => exact ⟨true, rfl, by simp⟩
  | some part =>
    cases shown : Certificate.showName cert.subject with
    | error f =>
      refine ⟨false, rfl, by simp, fun named => ?_⟩
      obtain ⟨name, _, _, text, _⟩ := named part rfl
      rw [Certificate.showName_eq_ok_iff.2 text] at shown
      cases shown
    | ok name =>
      have text := Certificate.showName_eq_ok_iff.1 shown
      refine ⟨Text.partOfText part name, rfl, ?_⟩
      rw [Text.partOfText_iff]
      constructor
      · rintro ⟨before, after, holds⟩ _ same
        cases same
        exact ⟨name, before, after, text, holds⟩
      · intro named
        obtain ⟨_, before, after, text', holds⟩ := named part rfl
        rw [text] at text'
        cases text'
        exact ⟨before, after, holds⟩

/-- A chain that begins with the data of a certificate is accepted exactly if it can be read as one
that is admitted. -/
theorem result_accepts_certificate (c : Config) (part? : Option String)
    (asked : c.certContains = .ofText? part?) (data : CertificateData) (rest : List Record)
    (now : Moment) :
    ∃ accepted, (accepts c (.records (.certificate data :: rest)) (.universal now)).result =
        .ok accepted ∧
      (accepted = true ↔ ∃ cert, data.read = .ok cert ∧ cert.Admits part? now) := by
  rw [result_accepts_records, asked]
  cases read : data.read with
  | error f =>
    have unread : (Record.certificate data).checkValidity (.universal now) = .error f := by
      simp [Record.checkValidity, read]
    rw [unread]
    exact ⟨false, rfl, by simp⟩
  | ok cert =>
    have check : (Record.certificate data).checkValidity (.universal now) =
        cert.checkValidity (.universal now) := by
      simp [Record.checkValidity, read]
    rw [check]
    cases valid : cert.checkValidity (.universal now) with
    | error f =>
      refine ⟨false, rfl, by simp, ?_⟩
      rintro ⟨_, same, admitted⟩
      cases same
      rw [Certificate.checkValidity_universal_eq_ok_iff.2 admitted.within] at valid
      cases valid
    | ok u =>
      obtain ⟨accepted, result, meaning⟩ := result_subjectAccepted_certificate read part?
      refine ⟨accepted, result, meaning.trans ⟨fun named => ?_, ?_⟩⟩
      · exact ⟨cert, rfl, Certificate.checkValidity_universal_eq_ok_iff.1 valid, named⟩
      · rintro ⟨_, same, admitted⟩
        cases same
        exact admitted.named

end CertGate
