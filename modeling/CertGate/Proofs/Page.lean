import CertGate.Proofs.Decision
import CertGate.View

/-!
# What the certificate view answers

The view sums up the certificate that came with a request. It answers with 404 when there was none, and
with 400 when the data of the certificate could not be read; but not everything that goes wrong with a
certificate is met by an answer.

* `Certificate.Presentable` : both names and both bounds of a certificate can be shown;
* `ofRecord_of_read` : the summary of a certificate, field by field, which is made exactly if the
  certificate is presentable (`isOk_summary_iff`); what stops it is neither a fault of the data nor a
  missing attribute (`kind_of_summary`);
* `DataAnswer.status?` : the status of an answer, if there is one;
* `answerTo_status` : which requests to read are answered, and with which status;
* `view_status_iff` : so is the view, unless it refuses the form that is asked for.
-/

namespace CertGate

/-! ## Bounds in universal time -/

theorem sinceMidnight_lt (m : Moment) : m.sinceMidnight < Moment.dayLength := by
  have := m.second.isLt
  have := m.micro.isLt
  unfold Moment.sinceMidnight Moment.dayLength
  omega

theorem onDay_sinceMidnight (m : Moment) : Moment.onDay m.date m.sinceMidnight = m := by
  have := m.second.isLt
  have := m.micro.isLt
  obtain ⟨date, second, micro⟩ := m
  unfold Moment.onDay Moment.sinceMidnight
  congr 1
  · apply Fin.ext
    show (second.val * 1000000 + micro.val) / 1000000 % 86400 = second.val
    omega
  · apply Fin.ext
    show (second.val * 1000000 + micro.val) % 1000000 = micro.val
    omega

/-- A moment of universal time is what it shows. -/
theorem toUniversal?_universal (m : Moment) : (Timestamp.universal m).toUniversal? = some m := by
  show m.shift? (-0) = some m
  have within := sinceMidnight_lt m
  unfold Moment.shift?
  rw [Int.neg_zero, Int.add_zero]
  dsimp only
  rw [if_neg (by omega), if_pos (by omega)]
  exact congrArg some (onDay_sinceMidnight m)

/-! ## Summaries of certificates -/

namespace Certificate

/-- Both names and both bounds of the validity can be shown. -/
structure Presentable (c : Certificate) : Prop where
  subject : ∃ name, c.subject.text = .ok name
  issuer : ∃ name, c.issuer.text = .ok name
  notBefore : ∃ m, c.notBefore? = some m
  notAfter : ∃ m, c.notAfter? = some m

theorem kind_of_showName {n : DistinguishedName} {f : Failure} (h : showName n = .error f) :
    f.kind = .value ∨ f.kind = .type := by
  unfold showName at h
  split at h
  · cases h
  · cases h
    exact .inl rfl
  · cases h
    exact .inr rfl

theorem kind_of_showBound {m? : Option Moment} {f : Failure} (h : showBound m? = .error f) :
    f.kind = .value ∨ f.kind = .type := by
  cases m? with
  | some m => cases h
  | none =>
    cases h
    exact .inl rfl

theorem showBound_eq_ok_iff {m? : Option Moment} {m : Moment} :
    showBound m? = .ok m ↔ m? = some m := by
  cases m? with
  | some m' => simp [showBound]
  | none => simp [showBound]

end Certificate

open Certificate (showName showBound)

section Summary
variable {data : CertificateData} {cert : Certificate} {f : Failure}

/-- The fields of the summary of a certificate. -/
def summaryFields (cert : Certificate) (subject issuer : String) (notBefore notAfter : Moment) :
    List (String × Value) := [
  ("subject", .text subject), ("issuer", .text issuer),
  ("serial_number", .text (Text.hexText cert.serial)),
  ("not_valid_before", .text (Summary.universalText notBefore)),
  ("not_valid_after", .text (Summary.universalText notAfter))]

theorem asTime_of_universal {t : Timestamp} {m : Moment} (h : t.toUniversal? = some m) :
    Summary.asTime (.time t) = .ok (.text (Summary.universalText m)) := by
  unfold Summary.asTime
  simp only [Value.isGiven, Bool.not_true, Bool.false_eq_true, if_false, h]

theorem isMissing_of_kind (h : f.kind = .value ∨ f.kind = .type) : Summary.isMissing f = false := by
  unfold Summary.isMissing
  rcases h with h | h <;> rw [h] <;> rfl

theorem optional_of_kind {name : String} {value : Except Failure Value}
    {shown : Value → Except Failure Value}
    (h : ∀ f, value = .error f → f.kind = .value ∨ f.kind = .type) :
    Summary.optional name value shown = value >>= fun v => (fun w => [(name, w)]) <$> shown v := by
  cases value with
  | ok v =>
    show (shown v >>= fun w => pure [(name, w)]) = _
    rw [ok_bind]
    cases shown v <;> rfl
  | error f =>
    show (if Summary.isMissing f then _ else _) = _
    rw [isMissing_of_kind (h f rfl)]
    rfl

theorem issuer_certificate (read : data.read = .ok cert) :
    (Record.certificate data).issuer = Value.text <$> showName cert.issuer := by
  rw [Record.issuer, field_of_read read]
  cases showName cert.issuer <;> rfl

theorem serial_certificate (read : data.read = .ok cert) :
    (Record.certificate data).serial = .ok (.int cert.serial) :=
  field_of_read read

theorem bound_eq_map (m? : Option Moment) :
    Record.bound m? = (fun m => Value.time (.universal m)) <$> showBound m? := by
  unfold Record.bound
  cases showBound m? <;> rfl

theorem notBefore_certificate (read : data.read = .ok cert) :
    (Record.certificate data).notBefore =
      (fun m => Value.time (.universal m)) <$> showBound cert.notBefore? := by
  rw [Record.notBefore, field_of_read read, bound_eq_map]

theorem notAfter_certificate (read : data.read = .ok cert) :
    (Record.certificate data).notAfter =
      (fun m => Value.time (.universal m)) <$> showBound cert.notAfter? := by
  rw [Record.notAfter, field_of_read read, bound_eq_map]

theorem optional_bound (name : String) (m? : Option Moment) :
    Summary.optional name ((fun m => Value.time (.universal m)) <$> showBound m?) Summary.asTime =
      (fun m => [(name, .text (Summary.universalText m))]) <$> showBound m? := by
  rw [optional_of_kind fun f h => Certificate.kind_of_showBound (map_eq_error_iff.1 h)]
  cases showBound m? with
  | ok m =>
    rw [map_ok, ok_bind, asTime_of_universal (toUniversal?_universal m)]
    rfl
  | error f => rfl

theorem optional_name (n : DistinguishedName) :
    Summary.optional "issuer" (Value.text <$> showName n) (pure ∘ Summary.asText) =
      (fun name => [("issuer", .text name)]) <$> showName n := by
  rw [optional_of_kind fun f h => Certificate.kind_of_showName (map_eq_error_iff.1 h)]
  cases showName n <;> rfl

/-- The fields are read in order, the first that cannot be shown ends the summary. -/
theorem ofRecord_of_read (read : data.read = .ok cert) :
    Summary.ofRecord (.certificate data) = showName cert.subject >>= fun subject =>
      showName cert.issuer >>= fun issuer => showBound cert.notBefore? >>= fun notBefore =>
        showBound cert.notAfter? >>= fun notAfter =>
          .ok (summaryFields cert subject issuer notBefore notAfter) := by
  have serial : Summary.serial (.certificate data) = .ok (.text (Text.hexText cert.serial)) := by
    unfold Summary.serial
    rw [serial_certificate read]
    rfl
  unfold Summary.ofRecord Summary.field
  simp only [subject_certificate read, issuer_certificate read, notBefore_certificate read,
    notAfter_certificate read, optional_name, optional_bound, serial]
  cases showName cert.subject with
  | error f => rfl
  | ok subject =>
    cases showName cert.issuer with
    | error f => rfl
    | ok issuer =>
      cases showBound cert.notBefore? with
      | error f => rfl
      | ok notBefore => cases showBound cert.notAfter? <;> rfl

theorem kind_of_summary (read : data.read = .ok cert)
    (h : Summary.ofRecord (.certificate data) = .error f) : f.kind = .value ∨ f.kind = .type := by
  rw [ofRecord_of_read read] at h
  simp only [bind_eq_error_iff] at h
  rcases h with subject | ⟨_, -, issuer | ⟨_, -, start | ⟨_, -, finish | ⟨_, -, done⟩⟩⟩⟩
  · exact Certificate.kind_of_showName subject
  · exact Certificate.kind_of_showName issuer
  · exact Certificate.kind_of_showBound start
  · exact Certificate.kind_of_showBound finish
  · cases done

theorem isOk_summary_iff (read : data.read = .ok cert) :
    (∃ fields, Summary.ofRecord (.certificate data) = .ok fields) ↔ cert.Presentable := by
  rw [ofRecord_of_read read]
  simp only [bind_eq_ok_iff, Certificate.showName_eq_ok_iff, Certificate.showBound_eq_ok_iff]
  constructor
  · rintro ⟨_, subject, hs, issuer, hi, notBefore, hb, notAfter, ha, -⟩
    exact ⟨⟨subject, hs⟩, ⟨issuer, hi⟩, ⟨notBefore, hb⟩, ⟨notAfter, ha⟩⟩
  · rintro ⟨⟨subject, hs⟩, ⟨issuer, hi⟩, ⟨notBefore, hb⟩, ⟨notAfter, ha⟩⟩
    exact ⟨_, subject, hs, issuer, hi, notBefore, hb, notAfter, ha, rfl⟩

theorem ofRecord_of_unread (unread : data.read = .error f) :
    Summary.ofRecord (.certificate data) = .error f := by
  have subject : (Record.certificate data).subject = .error f := field_of_unread unread
  unfold Summary.ofRecord Summary.field
  simp only [subject, error_bind]

end Summary

/-! ## Answers -/

/-- The status of an answer, if there is one. -/
def DataAnswer.status? (m : Except Failure DataAnswer) : Option Nat := m.toOption.map (·.status)

open DataAnswer (status?)

section Answer
variable {data : CertificateData} {cert : Certificate} {f : Failure}

theorem status?_eq_none_iff {m : Except Failure DataAnswer} :
    status? m = none ↔ ∃ f, m = .error f := by
  cases m with
  | ok a => simp [status?, Except.toOption]
  | error f => simp [status?, Except.toOption]

theorem summaryAnswer_of_ok {leaf : Record} {fields : List (String × Value)}
    (h : Summary.ofRecord leaf = .ok fields) (rest : List Record) :
    summaryAnswer (leaf :: rest) =
      .ok ⟨200, .mapping (fields ++ [("chain_length", .int (rest.length + 1))])⟩ := by
  unfold summaryAnswer
  simp only [h]

theorem summaryAnswer_of_error {leaf : Record} (h : Summary.ofRecord leaf = .error f)
    (rest : List Record) :
    summaryAnswer (leaf :: rest) =
      if f.isCertificate || f.kind = .attribute then .ok .unreadable
      else if f.kind = .validation then .ok (.invalid f) else .error f := by
  unfold summaryAnswer
  simp only [h]

/-- No answer meets a name or a time that cannot be shown. -/
theorem summaryAnswer_of_kind {leaf : Record} (h : Summary.ofRecord leaf = .error f)
    (kind : f.kind = .value ∨ f.kind = .type) (rest : List Record) :
    summaryAnswer (leaf :: rest) = .error f := by
  rw [summaryAnswer_of_error h]
  unfold Failure.isCertificate Failure.isValidity
  rcases kind with kind | kind <;> rw [kind] <;> rfl

theorem summaryAnswer_of_unsupported (unread : data.read = .error .unsupportedVersion)
    (rest : List Record) :
    summaryAnswer (.certificate data :: rest) = .error .unsupportedVersion := by
  rw [summaryAnswer_of_error (ofRecord_of_unread unread)]
  rfl

theorem summaryAnswer_of_unreadable (unread : data.read = .error .unreadableCertificate)
    (rest : List Record) : summaryAnswer (.certificate data :: rest) = .ok .unreadable := by
  rw [summaryAnswer_of_error (ofRecord_of_unread unread)]
  rfl

/-- How octets can fail to be a certificate. -/
theorem readOctets_error {bs : List UInt8} (h : CertificateData.readOctets bs = .error f) :
    f = .unreadableCertificate ∨ f = .unsupportedVersion := by
  unfold CertificateData.readOctets CertificateData.readTrimmed at h
  split at h
  · cases h
    exact .inl rfl
  · split at h
    · cases h
    · cases h
      exact .inl rfl
    · cases h
      exact .inr rfl

end Answer

/-! ## Requests -/

section Request
variable {s : Settings} {r : Request} {options : Options} {header? : Option String}

/-- The certificate that a text holds. -/
def readText (t : String) : Except Failure Certificate := (CertificateData.ofValue (.text t)).read

theorem answerTo_of_reading (reading : r.verb ∈ readingMethods) (found : s.options = .ok options)
    (proxy : options.lookup "CERT_HEADER" = some (.ofText? header?))
    (unattached : r.attached = .value .null) :
    answerTo s r = Request.presented r.vars (.ofText? header?) >>= fun rs? =>
      summaryAnswer (rs?.getD []) := by
  have other : r.verb ≠ "OPTIONS" := fun h => absurd (h ▸ reading) (by decide)
  unfold answerTo
  rw [if_neg other, if_neg (not_not_intro reading), found, ok_bind, Options.get_eq_ok_iff.2 proxy,
    ok_bind, Request.chain?_of_unattached unattached]

theorem answerTo_of_get (reading : r.verb = "GET") (found : s.options = .ok options)
    (proxy : options.lookup "CERT_HEADER" = some (.ofText? header?))
    (unattached : r.attached = .value .null) :
    answerTo s r = Request.presented r.vars (.ofText? header?) >>= fun rs? =>
      summaryAnswer (rs?.getD []) :=
  answerTo_of_reading (by rw [reading]; decide) found proxy unattached

/-- What a request to read comes down to, with the status of its answer: there is no certificate, or one
that can be shown as a whole, or data that is none; or the view fails on the certificate. -/
inductive Shown (r : Request) (header? : Option String) : Option Nat → Prop
  | absent (bare : ∀ t, ¬ Request.LeafText r.vars header? t) : Shown r header? (some 404)
  | whole {t : String} {cert : Certificate} (carried : Request.LeafText r.vars header? t)
    (read : readText t = .ok cert) (presentable : cert.Presentable) : Shown r header? (some 200)
  | unreadable {t : String} (carried : Request.LeafText r.vars header? t)
    (unread : readText t = .error .unreadableCertificate) : Shown r header? (some 400)
  | unsupported {t : String} (carried : Request.LeafText r.vars header? t)
    (unread : readText t = .error .unsupportedVersion) : Shown r header? none
  | concealed {t : String} {cert : Certificate} (carried : Request.LeafText r.vars header? t)
    (read : readText t = .ok cert) (hidden : ¬ cert.Presentable) : Shown r header? none

theorem exists_shown (r : Request) (header? : Option String) : ∃ o, Shown r header? o := by
  by_cases carries : ∃ t, Request.LeafText r.vars header? t
  · obtain ⟨t, carried⟩ := carries
    cases read : readText t with
    | ok cert =>
      by_cases presentable : cert.Presentable
      · exact ⟨_, .whole carried read presentable⟩
      · exact ⟨_, .concealed carried read presentable⟩
    | error f =>
      rcases readOctets_error read with rfl | rfl
      · exact ⟨_, .unreadable carried read⟩
      · exact ⟨_, .unsupported carried read⟩
  · exact ⟨_, .absent fun t carried => carries ⟨t, carried⟩⟩

theorem chain?_eq_none_iff (unattached : r.attached = .value .null)
    (reads : Request.ReadsTexts r.vars header?) :
    r.chain? (.ofText? header?) = .ok none ↔ ∀ t, ¬ Request.LeafText r.vars header? t := by
  rw [Request.chain?_of_unattached unattached]
  constructor
  · intro none t carried
    obtain ⟨rest, some⟩ := Request.presented_of_leafText carried
    rw [none] at some
    cases some
  · exact Request.presented_of_no_leafText reads

section Answered
variable (reading : r.verb = "GET") (found : s.options = .ok options)
  (proxy : options.lookup "CERT_HEADER" = some (.ofText? header?))
  (unattached : r.attached = .value .null)
include reading found proxy unattached

theorem answerTo_of_carried {t : String} (carried : Request.LeafText r.vars header? t) :
    ∃ rest, answerTo s r = summaryAnswer (.certificate (.ofValue (.text t)) :: rest) := by
  obtain ⟨rest, chain⟩ := Request.presented_of_leafText carried
  refine ⟨rest, ?_⟩
  rw [answerTo_of_get reading found proxy unattached, chain]
  rfl

theorem Shown.status? (reads : Request.ReadsTexts r.vars header?) {o : Option Nat}
    (h : Shown r header? o) : DataAnswer.status? (answerTo s r) = o := by
  cases h with
  | absent bare =>
    rw [answerTo_of_get reading found proxy unattached, Request.presented_of_no_leafText reads bare]
    rfl
  | whole carried read presentable =>
    obtain ⟨rest, same⟩ := answerTo_of_carried reading found proxy unattached carried
    obtain ⟨fields, summed⟩ := (isOk_summary_iff read).2 presentable
    rw [same, summaryAnswer_of_ok summed]
    rfl
  | unreadable carried unread =>
    obtain ⟨rest, same⟩ := answerTo_of_carried reading found proxy unattached carried
    rw [same, summaryAnswer_of_unreadable unread]
    rfl
  | unsupported carried unread =>
    obtain ⟨rest, same⟩ := answerTo_of_carried reading found proxy unattached carried
    rw [same, summaryAnswer_of_unsupported unread]
    rfl
  | @concealed t cert carried read hidden =>
    obtain ⟨rest, same⟩ := answerTo_of_carried reading found proxy unattached carried
    cases summary : Summary.ofRecord (.certificate (.ofValue (.text t))) with
    | ok fields => exact absurd ((isOk_summary_iff read).1 ⟨fields, summary⟩) hidden
    | error f =>
      rw [same, summaryAnswer_of_kind summary (kind_of_summary read summary)]
      rfl

theorem answerTo_status (reads : Request.ReadsTexts r.vars header?) :
    (DataAnswer.status? (answerTo s r) = some 404 ↔ r.chain? (.ofText? header?) = .ok none) ∧
    (DataAnswer.status? (answerTo s r) = some 200 ↔
      ∃ t cert, Request.LeafText r.vars header? t ∧ readText t = .ok cert ∧ cert.Presentable) ∧
    (DataAnswer.status? (answerTo s r) = some 400 ↔
      ∃ t, Request.LeafText r.vars header? t ∧ readText t = .error .unreadableCertificate) ∧
    ((∃ f, answerTo s r = .error f) ↔
      ∃ t, Request.LeafText r.vars header? t ∧ (readText t = .error .unsupportedVersion ∨
        ∃ cert, readText t = .ok cert ∧ ¬ cert.Presentable)) := by
  obtain ⟨o, shown⟩ := exists_shown r header?
  have status {o : Option Nat} (h : Shown r header? o) :=
    Shown.status? reading found proxy unattached reads h
  have same := status shown
  refine ⟨?_, ?_, ?_, ?_⟩
  · rw [chain?_eq_none_iff unattached reads]
    refine ⟨fun h => ?_, fun bare => status (.absent bare)⟩
    cases same.symm.trans h
    cases shown with
    | absent bare => exact bare
  · constructor
    · intro h
      cases same.symm.trans h
      cases shown with
      | whole carried read presentable => exact ⟨_, _, carried, read, presentable⟩
    · rintro ⟨t, cert, carried, read, presentable⟩
      exact status (.whole carried read presentable)
  · constructor
    · intro h
      cases same.symm.trans h
      cases shown with
      | unreadable carried unread => exact ⟨_, carried, unread⟩
    · rintro ⟨t, carried, unread⟩
      exact status (.unreadable carried unread)
  · rw [← status?_eq_none_iff]
    constructor
    · intro h
      cases same.symm.trans h
      cases shown with
      | unsupported carried unread => exact ⟨_, carried, .inl unread⟩
      | concealed carried read hidden => exact ⟨_, carried, .inr ⟨_, read, hidden⟩⟩
    · rintro ⟨t, carried, unread | ⟨cert, read, hidden⟩⟩
      · exact status (.unsupported carried unread)
      · exact status (.concealed carried read hidden)

/-- A request to read is answered with 404 when it carries no certificate, with 200 when the certificate
can be shown as a whole, and with 400 when its data is no certificate. The view fails on the others:
certificates of another version, and those with a name or a bound that cannot be shown. Before all this
it looks at the form that is asked for, and refuses or fails if it cannot give it. -/
theorem view_status_iff (reads : Request.ReadsTexts r.vars header?) :
    match Form.refusal? r with
    | .error f => view s r = .error f
    | .ok (some why) => view s r = .ok (.otherForm why)
    | .ok none =>
      (DataAnswer.status? (view s r) = some 404 ↔ r.chain? (.ofText? header?) = .ok none) ∧
      (DataAnswer.status? (view s r) = some 200 ↔
        ∃ t cert, Request.LeafText r.vars header? t ∧ readText t = .ok cert ∧ cert.Presentable) ∧
      (DataAnswer.status? (view s r) = some 400 ↔
        ∃ t, Request.LeafText r.vars header? t ∧ readText t = .error .unreadableCertificate) ∧
      ((∃ f, view s r = .error f) ↔
        ∃ t, Request.LeafText r.vars header? t ∧ (readText t = .error .unsupportedVersion ∨
          ∃ cert, readText t = .ok cert ∧ ¬ cert.Presentable)) := by
  unfold view
  cases Form.refusal? r with
  | error f => rfl
  | ok refusal? =>
    cases refusal? with
    | some why => rfl
    | none => exact answerTo_status reading found proxy unattached reads

end Answered
end Request

theorem presentable_sampleCertificate : sampleCertificate.Presentable where
  subject := ⟨"OU=Eng", eq_ok_of_toOption (by decide +kernel)⟩
  issuer := ⟨"", eq_ok_of_toOption (by decide +kernel)⟩
  notBefore := ⟨_, rfl⟩
  notAfter := ⟨_, rfl⟩

theorem lookup_sampleRequest : sampleRequest.vars.lookup leafVariable = some (.text samplePem) := by
  rfl

theorem readsTexts_sampleRequest :
    Request.ReadsTexts sampleRequest.vars (some "HTTP_X_CERT") := by
  constructor
  · intro v found
    exact ⟨samplePem, Option.some.inj (found.symm.trans lookup_sampleRequest)⟩
  · intro _ _ open_question
    rw [Request.given?_of_text lookup_sampleRequest (by decide)] at open_question
    cases open_question

theorem view_sampleRequest_status :
    sampleRequest.verb = "GET" ∧ sampleRequest.attached = .value .null ∧
      Request.ReadsTexts sampleRequest.vars (some "HTTP_X_CERT") ∧
      (∃ options, sampleSettings.options = .ok options ∧
        options.lookup "CERT_HEADER" = some (.ofText? (some "HTTP_X_CERT"))) ∧
      DataAnswer.status? (view sampleSettings sampleRequest) = some 200 := by
  refine ⟨rfl, rfl, readsTexts_sampleRequest, ⟨_, rfl, rfl⟩, ?_⟩
  have form : Form.refusal? sampleRequest = .ok none := eq_ok_of_toOption (by decide +kernel)
  have statuses := @view_status_iff sampleSettings sampleRequest _ (some "HTTP_X_CERT") rfl rfl rfl rfl
    readsTexts_sampleRequest
  rw [form] at statuses
  exact statuses.2.1.2 ⟨samplePem, sampleCertificate, .ofServer lookup_sampleRequest (by decide),
    read_samplePem, presentable_sampleCertificate⟩

/-- The small certificate with the number of the second version. -/
def secondVersionPem : String :=
  "-----BEGIN CERTIFICATE-----\n" ++
  "MFkwTaADAgEBAgEBMAUGAytlcDAAMB4XDTI0MDEwMTAwMDAwMFoXDTI1MDEwMTAwMDAwMFowDjEMMAoGA1UECwwDRW5n" ++
  "MAowBQYDK2VwAwEAMAUGAytlcAMBAA==\n-----END CERTIFICATE-----\n"

def secondVersionRequest : Request :=
  { sampleRequest with vars := [("SSL_CLIENT_CERT", .text secondVersionPem)] }

/-- The view fails on a certificate of the second version. -/
theorem view_secondVersionRequest_fails :
    view sampleSettings secondVersionRequest = .error .unsupportedVersion := by
  have form : Form.refusal? secondVersionRequest = .ok none := eq_ok_of_toOption (by decide +kernel)
  have unread : readText secondVersionPem = .error .unsupportedVersion :=
    eq_error_of_failure? (by decide +kernel)
  have carried : secondVersionRequest.vars.lookup leafVariable = some (.text secondVersionPem) := by
    rfl
  obtain ⟨rest, same⟩ := @answerTo_of_carried sampleSettings secondVersionRequest _
    (some "HTTP_X_CERT") rfl rfl rfl rfl _ (.ofServer carried (by decide))
  unfold view
  rw [form, ok_bind, same, summaryAnswer_of_unsupported unread]

end CertGate
