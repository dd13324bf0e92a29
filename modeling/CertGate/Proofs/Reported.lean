import CertGate.Proofs.Disclosure

/-!
# What the view reports of a record

The view tells what the first record of a chain tells: a certificate tells all there is, an attached
record may leave out anything but its subject.

* `Record.Legible` : a certificate that can be read and shown, or an attached record whose attributes are
  of the right kind as far as there are any;
* `Told` : an attribute, and what is told of it. Nothing is told of a missing one, and something of every
  other;
* `attributes_of_legible` : the attributes of such a record, stated alike for both sorts;
* `exists_told` : a field of a summary that may be missing tells an attribute;
* `view_reports` : the answer of the view reports the record.
-/

namespace CertGate

/-! ## Attributes -/

/-- An attribute that is missing, or has a value of some form. -/
inductive Reading.Optional (Form : Value → Prop) : Reading → Prop
  | absent : Optional Form .absent
  | gives {v : Value} (form : Form v) : Optional Form (.gives v)

/-- What reading an attribute comes to if it is missing or has a value of some form. -/
inductive MayHave (Form : Value → Prop) : Except Failure Value → Prop
  | missing (type name : String) : MayHave Form (.error (.missingAttribute type name))
  | given {v : Value} (form : Form v) : MayHave Form (.ok v)

/-- What is told of an attribute: nothing if it is missing, and if it has a value something that shows
this value. -/
inductive Told (Shows : Value → Value → Prop) : Except Failure Value → Option Value → Prop
  | missing (type name : String) : Told Shows (.error (.missingAttribute type name)) none
  | given {v w : Value} (shows : Shows v w) : Told Shows (.ok v) (some w)

theorem Reading.Optional.get {Form : Value → Prop} {reading : Reading}
    (optional : reading.Optional Form) (name : String) : MayHave Form (reading.get name) := by
  cases optional with
  | absent => exact .missing "Record" name
  | gives form => exact .given form

def Value.IsText (v : Value) : Prop := ∃ s, v = .text s

def Value.IsInteger (v : Value) : Prop := ∃ n, v = .int n

/-- A time in universal time. -/
def Value.IsMoment (v : Value) : Prop := ∃ m, v = .time (.universal m)

/-- A record that can be shown: a certificate that is read and has names and bounds, or an attached
record with a subject, whose other attributes are of the right kind or missing. -/
inductive Record.Legible : Record → Prop
  | certificate {data : CertificateData} {cert : Certificate} (read : data.read = .ok cert)
    (presentable : cert.Presentable) : Legible (.certificate data)
  | attached {r : AttachedRecord} {name : String} (subject : r.subject = .gives (.text name))
    (issuer : r.issuer.Optional Value.IsText) (serial : r.serial.Optional Value.IsInteger)
    (notBefore : r.notBefore.Optional Value.IsMoment)
    (notAfter : r.notAfter.Optional Value.IsMoment) : Legible (.attached r)

/-- The attributes of a record, by which it can be shown. -/
structure Record.Attributes (leaf : Record) : Prop where
  subject : ∃ name, leaf.subject = .ok (.text name)
  issuer : MayHave Value.IsText leaf.issuer
  serial : MayHave Value.IsInteger leaf.serial
  notBefore : MayHave Value.IsMoment leaf.notBefore
  notAfter : MayHave Value.IsMoment leaf.notAfter

theorem attributes_of_legible {leaf : Record} (legible : leaf.Legible) : leaf.Attributes := by
  cases legible with
  | certificate read presentable =>
    obtain ⟨⟨subject, named⟩, ⟨issuer, issued⟩, ⟨start, begins⟩, ⟨finish, ends⟩⟩ := presentable
    constructor
    · rw [subject_certificate read, Certificate.showName_eq_ok_iff.2 named]
      exact ⟨subject, rfl⟩
    · rw [issuer_certificate read, Certificate.showName_eq_ok_iff.2 issued]
      exact .given ⟨issuer, rfl⟩
    · rw [serial_certificate read]
      exact .given ⟨_, rfl⟩
    · rw [notBefore_certificate read, Certificate.showBound_eq_ok_iff.2 begins]
      exact .given ⟨start, rfl⟩
    · rw [notAfter_certificate read, Certificate.showBound_eq_ok_iff.2 ends]
      exact .given ⟨finish, rfl⟩
  | @attached r name subject issuer serial notBefore notAfter =>
    have there : (Record.attached r).subject = r.subject.get "subject_name" := rfl
    rw [subject] at there
    exact ⟨⟨name, there⟩, issuer.get _, serial.get _, notBefore.get _, notAfter.get _⟩

/-! ## Fields -/

/-- A text is shown as it is. -/
def ShowsText (v w : Value) : Prop := ∃ s, v = .text s ∧ w = .text s

/-- An integer of any size is shown in hexadecimal. -/
def ShowsHex (v w : Value) : Prop := ∃ n t, v = .int n ∧ w = .text t ∧ Text.IsHexOf n t

/-- A moment is shown in the ISO form, and is read from it again. -/
def ShowsTime (v w : Value) : Prop :=
  ∃ m t, v = .time (.universal m) ∧ w = .text t ∧ Timestamp.ofIso? t = some (.universal m)

theorem exists_told {Form : Value → Prop} {Shows : Value → Value → Prop}
    {attr : Except Failure Value} {shown : Value → Except Failure Value}
    (has : MayHave Form attr) (shows : ∀ v, Form v → ∃ w, shown v = .ok w ∧ Shows v w)
    (name : String) :
    ∃ w?, Told Shows attr w? ∧
      Summary.optional name attr shown = .ok (w?.toList.map fun w => (name, w)) := by
  cases has with
  | missing type key => exact ⟨none, .missing type key, rfl⟩
  | @given v form =>
    obtain ⟨w, same, shows⟩ := shows v form
    refine ⟨some w, .given shows, ?_⟩
    unfold Summary.optional
    dsimp only
    rw [same]
    rfl

theorem shows_text (v : Value) (form : v.IsText) :
    ∃ w, (pure ∘ Summary.asText : Value → Except Failure Value) v = .ok w ∧ ShowsText v w := by
  obtain ⟨s, rfl⟩ := form
  exact ⟨.text s, rfl, s, rfl, rfl⟩

theorem shows_time (v : Value) (form : v.IsMoment) :
    ∃ w, Summary.asTime v = .ok w ∧ ShowsTime v w := by
  obtain ⟨m, rfl⟩ := form
  exact ⟨_, asTime_of_universal (toUniversal?_universal m), m, _, rfl, rfl, ofIso?_universalText m⟩

/-- Unlike the other fields a serial number that is missing is told, as null. -/
theorem exists_told_serial {leaf : Record} (serial : MayHave Value.IsInteger leaf.serial) :
    ∃ number?, Told ShowsHex leaf.serial number? ∧
      Summary.serial leaf = .ok (number?.getD .null) := by
  unfold Summary.serial
  generalize leaf.serial = attr at serial ⊢
  cases serial with
  | missing type name => exact ⟨none, .missing type name, rfl⟩
  | given form =>
    obtain ⟨n, rfl⟩ := form
    exact ⟨some (.text (Text.hexText n)), .given ⟨n, _, rfl, rfl, Text.isHexOf_hexText n⟩, rfl⟩

/-! ## Answers -/

/-- What an answer tells is what the record and the length of its chain are. -/
structure DataAnswer.Reports (a : DataAnswer) (leaf : Record) (length : Nat) : Prop where
  subject : ∃ name, leaf.subject = .ok (.text name) ∧ a.tells? "subject" = some (.text name)
  issuer : Told ShowsText leaf.issuer (a.tells? "issuer")
  serial : ∃ number?, Told ShowsHex leaf.serial number? ∧
    a.tells? "serial_number" = some (number?.getD .null)
  notBefore : Told ShowsTime leaf.notBefore (a.tells? "not_valid_before")
  notAfter : Told ShowsTime leaf.notAfter (a.tells? "not_valid_after")
  chainLength : a.tells? "chain_length" = some (.int length)

/-- The fields of a summary, where some may be missing. -/
def reportFields (name : String) (issuer? : Option Value) (number : Value)
    (notBefore? notAfter? : Option Value) : List (String × Value) :=
  ("subject", .text name) :: issuer?.toList.map (fun w => ("issuer", w)) ++
    ("serial_number", number) :: notBefore?.toList.map (fun w => ("not_valid_before", w)) ++
    notAfter?.toList.map (fun w => ("not_valid_after", w))

theorem exists_summary {leaf : Record} (legible : leaf.Legible) :
    ∃ name issuer? number? notBefore? notAfter?, leaf.subject = .ok (.text name) ∧
      Told ShowsText leaf.issuer issuer? ∧ Told ShowsHex leaf.serial number? ∧
      Told ShowsTime leaf.notBefore notBefore? ∧ Told ShowsTime leaf.notAfter notAfter? ∧
      Summary.ofRecord leaf =
        .ok (reportFields name issuer? (number?.getD .null) notBefore? notAfter?) := by
  have attributes := attributes_of_legible legible
  obtain ⟨name, subject⟩ := attributes.subject
  obtain ⟨issuer?, toldIssuer, issuer⟩ := exists_told attributes.issuer shows_text "issuer"
  obtain ⟨number?, toldNumber, number⟩ := exists_told_serial attributes.serial
  obtain ⟨notBefore?, toldStart, start⟩ :=
    exists_told attributes.notBefore shows_time "not_valid_before"
  obtain ⟨notAfter?, toldEnd, finish⟩ :=
    exists_told attributes.notAfter shows_time "not_valid_after"
  refine ⟨name, issuer?, number?, notBefore?, notAfter?, subject, toldIssuer, toldNumber, toldStart,
    toldEnd, ?_⟩
  -- no legible record is a plain value, whose keys would be its fields
  cases legible <;>
  · unfold Summary.ofRecord Summary.field
    simp only [subject, issuer, number, start, finish]
    rfl

/-- The answer to a chain of some length whose first record has these fields. -/
def reportAnswer (name : String) (issuer? : Option Value) (number : Value)
    (notBefore? notAfter? : Option Value) (length : Int) : DataAnswer :=
  ⟨200, .mapping (reportFields name issuer? number notBefore? notAfter? ++
    [("chain_length", .int length)])⟩

theorem tells_reportAnswer (name : String) (issuer? : Option Value) (number : Value)
    (notBefore? notAfter? : Option Value) (length : Int) :
    let a := reportAnswer name issuer? number notBefore? notAfter? length
    a.tells? "subject" = some (.text name) ∧ a.tells? "issuer" = issuer? ∧
      a.tells? "serial_number" = some number ∧ a.tells? "not_valid_before" = notBefore? ∧
      a.tells? "not_valid_after" = notAfter? ∧ a.tells? "chain_length" = some (.int length) := by
  cases issuer? <;> cases notBefore? <;> cases notAfter? <;> exact ⟨rfl, rfl, rfl, rfl, rfl, rfl⟩

theorem reports_of_told {leaf : Record} {name : String}
    {issuer? number? notBefore? notAfter? : Option Value} (subject : leaf.subject = .ok (.text name))
    (issuer : Told ShowsText leaf.issuer issuer?) (number : Told ShowsHex leaf.serial number?)
    (notBefore : Told ShowsTime leaf.notBefore notBefore?)
    (notAfter : Told ShowsTime leaf.notAfter notAfter?) (length : Nat) :
    (reportAnswer name issuer? (number?.getD .null) notBefore? notAfter? length).Reports leaf
      length := by
  obtain ⟨tellsSubject, tellsIssuer, tellsNumber, tellsStart, tellsEnd, tellsLength⟩ :=
    tells_reportAnswer name issuer? (number?.getD .null) notBefore? notAfter? length
  refine ⟨⟨name, subject, tellsSubject⟩, ?_, ⟨number?, number, tellsNumber⟩, ?_, ?_, tellsLength⟩
  · rwa [tellsIssuer]
  · rwa [tellsStart]
  · rwa [tellsEnd]

/-- A chain whose first record can be shown is answered with 200, and the answer reports this record with
the length of the chain. -/
theorem view_reports {s : Settings} {r : Request} {options : Options} {header : Value}
    {leaf : Record} {rest : List Record} (found : s.options = .ok options)
    (proxy : options.lookup "CERT_HEADER" = some header) (reading : r.verb ∈ readingMethods)
    (chain : r.chain? header = .ok (some (leaf :: rest))) (legible : leaf.Legible) :
    ∃ a, answerTo s r = .ok a ∧ (Form.refusal? r = .ok none → view s r = .ok a) ∧ a.status = 200 ∧
      a.Reports leaf (leaf :: rest).length := by
  obtain ⟨name, issuer?, number?, notBefore?, notAfter?, subject, issuer, number, notBefore,
    notAfter, summary⟩ := exists_summary legible
  have other : r.verb ≠ "OPTIONS" := fun h => absurd (h ▸ reading) (by decide)
  have answered : answerTo s r = summaryAnswer (leaf :: rest) := by
    unfold answerTo
    rw [if_neg other, if_neg (not_not_intro reading), found, ok_bind, Options.get_eq_ok_iff.2 proxy,
      ok_bind, chain]
    rfl
  rw [summaryAnswer_of_ok summary] at answered
  refine ⟨_, answered, ?_, rfl, reports_of_told subject issuer number notBefore notAfter _⟩
  intro fit
  unfold view
  rw [fit, ok_bind]
  exact answered

/-- A record with a subject, a number and a start of its validity. -/
def sampleAttached : AttachedRecord where
  subject := .gives (.text "CN=Attached,O=Acme")
  issuer := .absent
  serial := .gives (.int (-18446744073709551616))
  notBefore := .gives (.time (.universal sampleNoon))
  notAfter := .absent
  check := .passes

def attachedRequest : Request where
  verb := "GET"
  path := Site.viewPath
  pathInfo := Site.viewPath
  vars := []
  attached := .records [.attached sampleAttached, .plain .null]

theorem view_reports_attachedRequest :
    attachedRequest.chain? (.text "HTTP_X_CERT") =
        .ok (some [.attached sampleAttached, .plain .null]) ∧
      (Record.attached sampleAttached).Legible ∧
      ∃ a, view everywhereSettings attachedRequest = .ok a ∧
        a = reportAnswer "CN=Attached,O=Acme" none (.text "-10000000000000000")
          (some (.text "2024-06-15T12:00:00Z")) none 2 ∧
        a.Reports (.attached sampleAttached) 2 := by
  have legible : (Record.attached sampleAttached).Legible :=
    .attached rfl .absent (.gives ⟨_, rfl⟩) (.gives ⟨_, rfl⟩) .absent
  have form : Form.refusal? attachedRequest = .ok none := eq_ok_of_toOption (by decide +kernel)
  obtain ⟨a, answered, viewed, -, reports⟩ :=
    @view_reports everywhereSettings attachedRequest _ (.text "HTTP_X_CERT") _ _ rfl rfl (by decide)
      rfl legible
  refine ⟨rfl, legible, a, viewed form, ?_, reports⟩
  cases answered
  rfl

end CertGate
