import CertGate.Proofs.IsoText
import CertGate.Proofs.Page
import CertGate.Site

/-!
# Which certificates the view shows

The guard and the view take the certificate out of a request each by itself. Behind a guard that
enforces on every path the view still shows no other certificates than the guard has accepted.

* `Guard.before` : a guard in front of a page, which is what the site is for the view
  (`respond_viewPath`, `respond_viewPath_of_unattached`);
* `Request.Unproven` : what a request can lack to be accepted, and `result_check_everywhere` : such
  requests are refused, all others pass;
* `DataAnswer.Accepted` : what an answer says of a certificate fits what is asked for. The bounds are
  those that its texts are read as;
* `view_shows_accepted` : the view behind a guard.
-/

namespace CertGate

/-! ## A guard in front of a page -/

/-- The answer of a guard, or that of the page for a request that it lets pass. -/
def Guard.before {α : Type} (g : Guard) (now : Timestamp) (r : Request) (page : Except Failure α) :
    Logged (TextAnswer ⊕ α) := do
  match ← g.check now r with
  | some refusal => return .inl refusal
  | none => return .inr (← page)

/-- An answer as the client gets it, from the guard or from the view. -/
def Site.sent : TextAnswer ⊕ DataAnswer → Site.Answer
  | .inl refusal => ⟨refusal.status, Site.pageType, none, .text refusal.body⟩
  | .inr answer => ⟨answer.status, Site.dataType, some Site.allowedMethods, .data answer.data⟩

section Before
variable {α : Type} {g : Guard} {now : Timestamp} {r : Request}

theorem result_before_of_refused {a : TextAnswer} (refused : (g.check now r).result = .ok (some a))
    (page : Except Failure α) : (g.before now r page).result = .ok (.inl a) := by
  unfold Guard.before
  rw [Logged.result_bind, refused]
  rfl

theorem result_before_of_passed (passed : (g.check now r).result = .ok none)
    (page : Except Failure α) : (g.before now r page).result = .inr <$> page := by
  unfold Guard.before
  rw [Logged.result_bind, passed, ok_bind, Logged.result_bind, Logged.result_liftM]
  cases page <;> rfl

/-- A request to the view that names a host meets the guard first, and then the view, which gets it with
what the guard has left of its chain. -/
theorem respond_viewPath (s : Settings) (fit : Host.isFit r = .ok true)
    (addressed : r.pathInfo = Site.viewPath) :
    (Site.respond g s now r).result = Site.sent <$> (g.before now r (view s r.spent)).result := by
  have page : Site.page s r.spent = (fun answer => Site.sent (.inr answer)) <$> view s r.spent := by
    have addressed' : r.spent.pathInfo = Site.viewPath := addressed
    unfold Site.page
    rw [if_pos addressed']
    cases view s r.spent <;> rfl
  unfold Site.respond
  rw [fit, Logged.result_bind, Logged.result_liftM, ok_bind]
  simp only [Bool.not_true, Bool.false_eq_true, if_false]
  rw [Logged.result_bind]
  cases checked : (g.check now r).result with
  | error f =>
    unfold Guard.before
    rw [Logged.result_bind, checked]
    rfl
  | ok refusal? =>
    rw [ok_bind]
    cases refusal? with
    | some refusal =>
      rw [result_before_of_refused checked]
      rfl
    | none =>
      rw [result_before_of_passed checked, Logged.result_liftM, page]
      cases view s r.spent <;> rfl

/-- A request without an attached chain is not changed by the guard. -/
theorem spent_of_unattached (unattached : r.attached = .value .null) : r.spent = r := by
  obtain ⟨verb, path, pathInfo, vars, attached⟩ := r
  cases unattached
  rfl

theorem respond_viewPath_of_unattached (s : Settings) (fit : Host.isFit r = .ok true)
    (addressed : r.pathInfo = Site.viewPath) (unattached : r.attached = .value .null) :
    (Site.respond g s now r).result = Site.sent <$> (g.before now r (view s r)).result := by
  rw [respond_viewPath s fit addressed, spent_of_unattached unattached]

end Before

/-! ## Requests that are refused -/

section Refused
variable {header? part? : Option String} {now : Moment} {r : Request}

/-- What a request without an attached chain lacks: a certificate, or one that can be read, or one
whose bounds the moment lies within, or one with the subject that is asked for. -/
inductive Request.Unproven (header? part? : Option String) (now : Moment) (r : Request) : Prop
  | missing (bare : ∀ t, ¬ LeafText r.vars header? t)
  | unreadable {t : String} {f : Failure} (carried : LeafText r.vars header? t)
    (unread : readText t = .error f)
  | outside {t : String} {cert : Certificate} (carried : LeafText r.vars header? t)
    (read : readText t = .ok cert)
    (apart : ∀ start finish, cert.notBefore? = some start → cert.notAfter? = some finish →
      now.rank < start.rank ∨ finish.rank < now.rank)
  | differing {t part : String} {cert : Certificate} (carried : LeafText r.vars header? t)
    (read : readText t = .ok cert) (asked : part? = some part)
    (without : ∀ name before after, cert.subject.text = .ok name → name ≠ before ++ part ++ after)

theorem unproven_of_not_admits {t : String} {cert : Certificate}
    (carried : Request.LeafText r.vars header? t) (read : readText t = .ok cert)
    (bad : ¬ cert.Admits part? now) : r.Unproven header? part? now := by
  by_cases within : ∃ start finish, cert.notBefore? = some start ∧ cert.notAfter? = some finish ∧
      start.rank ≤ now.rank ∧ now.rank ≤ finish.rank
  · cases part? with
    | none => exact absurd ⟨within, fun _ asked => nomatch asked⟩ bad
    | some part =>
      refine .differing carried read rfl fun name before after text holds => bad ⟨within, ?_⟩
      rintro _ ⟨⟩
      exact ⟨name, before, after, text, holds⟩
  · refine .outside carried read fun start finish begins ends => ?_
    rcases Nat.lt_or_ge now.rank start.rank with early | begun
    · exact .inl early
    · rcases Nat.lt_or_ge finish.rank now.rank with late | lasts
      · exact .inr late
      · exact absurd ⟨start, finish, begins, ends, begun, lasts⟩ within

theorem unproven_iff : r.Unproven header? part? now ↔
    ¬ ∃ t cert, Request.LeafText r.vars header? t ∧ readText t = .ok cert ∧
      cert.Admits part? now := by
  constructor
  · rintro lacking ⟨t, cert, carried, read, good⟩
    have same {u : String} (carried' : Request.LeafText r.vars header? u) :
        readText u = .ok cert := by
      rw [carried'.unique carried, read]
    cases lacking with
    | missing bare => exact bare t carried
    | unreadable carried' unread => cases (same carried').symm.trans unread
    | outside carried' read' apart =>
      cases (same carried').symm.trans read'
      obtain ⟨start, finish, begins, ends, begun, lasts⟩ := good.within
      have := apart start finish begins ends
      omega
    | differing carried' read' asked without =>
      cases (same carried').symm.trans read'
      obtain ⟨name, before, after, text, holds⟩ := good.named _ asked
      exact without name before after text holds
  · intro none_admitted
    by_cases carries : ∃ t, Request.LeafText r.vars header? t
    · obtain ⟨t, carried⟩ := carries
      cases read : readText t with
      | error f => exact .unreadable carried read
      | ok cert =>
        exact unproven_of_not_admits carried read fun good =>
          none_admitted ⟨t, cert, carried, read, good⟩
    · exact .missing fun t carried => carries ⟨t, carried⟩

/-- A guard that enforces everywhere refuses the requests that lack something, and no others. -/
theorem result_check_everywhere (unattached : r.attached = .value .null)
    (reads : Request.ReadsTexts r.vars header?) :
    ∃ accepted, (Guard.check ⟨.ofText? header?, .ready (.enforcing (.ofText? part?) none)⟩
        (.universal now) r).result = .ok (if accepted then none else some Guard.refusal) ∧
      (accepted = true ↔ ∃ t cert, Request.LeafText r.vars header? t ∧ readText t = .ok cert ∧
        cert.Admits part? now) := by
  obtain ⟨rs?, chain, accepted, result, meaning⟩ :=
    accepts_presented reads (.enforcing (.ofText? part?) none) rfl now
  refine ⟨accepted, ?_, meaning⟩
  have decided := result_verdict_enforcing (.ofText? part?) none r.path (.ofRecords? rs?)
    (.universal now)
  rw [result] at decided
  rw [result_check, Request.chain?_of_unattached unattached, chain, ok_bind]
  show Guard.reply <$> (verdict _ _ _ _).result = _
  rw [decided]
  cases accepted <;> rfl

end Refused

/-! ## What is shown -/

/-- What the data of an answer tell under a name, if they tell anything. -/
def DataAnswer.tells? (a : DataAnswer) (name : String) : Option Value :=
  match a.data with
  | .mapping entries => entries.lookup name
  | _ => none

/-- What an answer says of a certificate is what is asked for: its subject contains a text, and the
moment lies within the bounds as they are read from its texts. -/
structure DataAnswer.Accepted (part? : Option String) (now : Moment) (a : DataAnswer) : Prop where
  subject : ∀ v, a.tells? "subject" = some v → ∃ name, v = .text name ∧
    ∀ part, part? = some part → ∃ before after, name = before ++ part ++ after
  notBefore : ∀ v, a.tells? "not_valid_before" = some v → ∃ t start, v = .text t ∧
    Timestamp.ofIso? t = some (.universal start) ∧ start.rank ≤ now.rank
  notAfter : ∀ v, a.tells? "not_valid_after" = some v → ∃ t finish, v = .text t ∧
    Timestamp.ofIso? t = some (.universal finish) ∧ now.rank ≤ finish.rank

/-- The names under which an answer tells of the subject and of the bounds. -/
def acceptedNames : List String := ["subject", "not_valid_before", "not_valid_after"]

section View
variable {s : Settings} {r : Request} {a : DataAnswer} {part? : Option String} {now : Moment}

/-- The view answers with 200 only what it is, and what a chain is. -/
theorem view_shown (answered : view s r = .ok a) (shown : a.status = 200) :
    (r.verb = "OPTIONS" ∧ a = .about) ∨ (r.verb ∈ readingMethods ∧ answerTo s r = .ok a) := by
  unfold view at answered
  obtain ⟨why?, -, answered⟩ := bind_eq_ok_iff.1 answered
  cases why? with
  | some why =>
    cases answered
    cases why <;> cases shown
  | none =>
    by_cases asks : r.verb = "OPTIONS"
    · unfold answerTo at answered
      rw [if_pos asks] at answered
      cases answered
      exact .inl ⟨asks, rfl⟩
    · by_cases reading : r.verb ∈ readingMethods
      · exact .inr ⟨reading, answered⟩
      · unfold answerTo at answered
        rw [if_neg asks, if_pos reading] at answered
        cases answered
        cases shown

/-- A certificate that is read is shown with its fields, or not at all. -/
theorem summaryAnswer_of_read {data : CertificateData} {cert : Certificate} {rest : List Record}
    (read : data.read = .ok cert) (answered : summaryAnswer (.certificate data :: rest) = .ok a) :
    ∃ subject issuer start finish, cert.subject.text = .ok subject ∧
      cert.notBefore? = some start ∧ cert.notAfter? = some finish ∧
      a.data = .mapping (summaryFields cert subject issuer start finish ++
        [("chain_length", .int (rest.length + 1))]) := by
  cases summary : Summary.ofRecord (.certificate data) with
  | error f =>
    rw [summaryAnswer_of_kind summary (kind_of_summary read summary)] at answered
    cases answered
  | ok fields =>
    rw [summaryAnswer_of_ok summary] at answered
    cases answered
    rw [ofRecord_of_read read] at summary
    simp only [bind_eq_ok_iff, Certificate.showName_eq_ok_iff,
      Certificate.showBound_eq_ok_iff] at summary
    obtain ⟨subject, named, issuer, -, start, begins, finish, ends, same⟩ := summary
    cases same
    exact ⟨subject, issuer, start, finish, named, begins, ends, rfl⟩

theorem accepted_of_summary {cert : Certificate} {subject issuer : String} {start finish : Moment}
    {more : List (String × Value)} (good : cert.Admits part? now)
    (named : cert.subject.text = .ok subject) (begins : cert.notBefore? = some start)
    (ends : cert.notAfter? = some finish)
    (data : a.data = .mapping (summaryFields cert subject issuer start finish ++ more)) :
    a.Accepted part? now ∧ ∀ name ∈ acceptedNames, (a.tells? name).isSome = true := by
  have entry (name : String) :
      a.tells? name = (summaryFields cert subject issuer start finish ++ more).lookup name := by
    unfold DataAnswer.tells?
    rw [data]
  obtain ⟨_, _, begins', ends', begun, lasts⟩ := good.within
  cases begins.symm.trans begins'
  cases ends.symm.trans ends'
  refine ⟨⟨?_, ?_, ?_⟩, ?_⟩
  · intro v said
    cases (entry _).symm.trans said
    refine ⟨subject, rfl, fun part asked => ?_⟩
    obtain ⟨_, before, after, named', holds⟩ := good.named part asked
    cases named.symm.trans named'
    exact ⟨before, after, holds⟩
  · intro v said
    cases (entry _).symm.trans said
    exact ⟨_, start, rfl, ofIso?_universalText start, begun⟩
  · intro v said
    cases (entry _).symm.trans said
    exact ⟨_, finish, rfl, ofIso?_universalText finish, lasts⟩
  · intro name mem
    rw [entry]
    rcases List.mem_cons.1 mem with rfl | mem
    · rfl
    · rcases List.mem_cons.1 mem with rfl | mem
      · rfl
      · cases List.mem_singleton.1 mem
        rfl

/-- Asked what it is, the view tells nothing of a certificate. -/
theorem accepted_about : DataAnswer.about.Accepted part? now where
  subject _ said := nomatch said
  notBefore _ said := nomatch said
  notAfter _ said := nomatch said

/-- With a certificate that is admitted the view answers with 200 only what is asked for. -/
theorem accepted_of_view {options : Options} {header? : Option String} {t : String}
    {cert : Certificate} (found : s.options = .ok options)
    (proxy : options.lookup "CERT_HEADER" = some (.ofText? header?))
    (unattached : r.attached = .value .null) (carried : Request.LeafText r.vars header? t)
    (read : readText t = .ok cert) (good : cert.Admits part? now)
    (answered : view s r = .ok a) (shown : a.status = 200) :
    a.Accepted part? now ∧
      (r.verb ≠ "OPTIONS" → ∀ name ∈ acceptedNames, (a.tells? name).isSome = true) := by
  rcases view_shown answered shown with ⟨asks, rfl⟩ | ⟨reading, answered⟩
  · exact ⟨accepted_about, fun other => absurd asks other⟩
  · obtain ⟨rest, chain⟩ := Request.presented_of_leafText carried
    rw [answerTo_of_reading reading found proxy unattached, chain] at answered
    obtain ⟨_, _, _, _, named, begins, ends, data⟩ := summaryAnswer_of_read read answered
    obtain ⟨fits, present⟩ := accepted_of_summary good named begins ends data
    exact ⟨fits, fun _ => present⟩

end View

/-! ## The view behind a guard -/

/-- The guard of settings that enforce and name no paths. -/
theorem build_everywhere {s : Settings} {tally : Tally} {options : Options}
    {header part : Value} (found : s.options = .ok options)
    (on : s.policyFlag.answer tally = .ok true)
    (everywhere : options.lookup "PATHS" = some .null)
    (subject : options.lookup "CERT_CONTAINS" = some part)
    (proxy : options.lookup "CERT_HEADER" = some header) :
    (Guard.build s).answer tally = .ok ⟨header, .ready (.enforcing part none)⟩ := by
  obtain ⟨⟨part', paths, mount⟩, start⟩ := exists_start found
  obtain ⟨subject', paths', -⟩ := start_eq_ok_iff.1 start
  cases subject.symm.trans subject'
  cases everywhere.symm.trans paths'
  exact build_eq_ok_iff.2 ⟨options, found, proxy, _,
    (configureFrom_eq_ok_iff found).2 ⟨_, start, .inr ⟨on, none, rfl, rfl⟩⟩, rfl⟩

/-- Behind a guard that enforces everywhere, an answer of the view with 200 says of a certificate only
what is asked for, and it says all of it unless it was asked what the view is. A request that lacks
something is refused whatever the page would be, and every other request gets its page. -/
theorem view_shows_accepted {s : Settings} {tally : Tally} {options : Options}
    {header? part? : Option String} (found : s.options = .ok options)
    (on : s.policyFlag.answer tally = .ok true)
    (everywhere : options.lookup "PATHS" = some .null)
    (subject : options.lookup "CERT_CONTAINS" = some (.ofText? part?))
    (proxy : options.lookup "CERT_HEADER" = some (.ofText? header?)) :
    ∃ g, (Guard.build s).answer tally = .ok g ∧
      ∀ (r : Request) (now : Moment), r.attached = .value .null →
        Request.ReadsTexts r.vars header? →
        (∀ a, (g.before (.universal now) r (view s r)).result = .ok (.inr a) → a.status = 200 →
          a.Accepted part? now ∧
            (r.verb ≠ "OPTIONS" → ∀ name ∈ acceptedNames, (a.tells? name).isSome = true)) ∧
        (r.Unproven header? part? now → ∀ {α : Type} (page : Except Failure α),
          (g.before (.universal now) r page).result =
            .ok (.inl ⟨403, "X509 Authentication failure"⟩)) ∧
        (¬ r.Unproven header? part? now → ∀ {α : Type} (page : Except Failure α),
          (g.before (.universal now) r page).result = .inr <$> page) := by
  refine ⟨_, build_everywhere found on everywhere subject proxy, fun r now unattached reads => ?_⟩
  obtain ⟨accepted, checked, meaning⟩ :=
    @result_check_everywhere header? part? now r unattached reads
  -- nothing is known of the page but what the guard leaves to it
  cases accepted with
  | false =>
    have refused := fun {α : Type} (page : Except Failure α) => result_before_of_refused checked page
    have lacking : r.Unproven header? part? now :=
      unproven_iff.2 fun admitted => nomatch meaning.2 admitted
    refine ⟨fun a answered => ?_, fun _ _ page => refused page, absurd lacking⟩
    cases (refused _).symm.trans answered
  | true =>
    obtain ⟨t, cert, carried, read, good⟩ := meaning.1 rfl
    have passed := fun {α : Type} (page : Except Failure α) => result_before_of_passed checked page
    have proven : ¬ r.Unproven header? part? now :=
      fun lacking => unproven_iff.1 lacking ⟨t, cert, carried, read, good⟩
    refine ⟨fun a answered shown => ?_, fun lacking => absurd lacking proven,
      fun _ _ page => passed page⟩
    rw [passed, map_eq_ok_iff] at answered
    obtain ⟨_, viewed, ⟨⟩⟩ := answered
    exact accepted_of_view found proxy unattached carried read good viewed shown

/-- Settings that enforce on every path. -/
def everywhereSettings : Settings where
  auth? := some (.mapping [("ENFORCE", .bool true), ("CERT_CONTAINS", .text "OU=Eng"),
    ("CERT_HEADER", .text "HTTP_X_CERT")])
  mountPath := .null
  environment := []
  library := emptyLibrary

theorem view_everywhereSettings :
    ∃ a, view everywhereSettings sampleRequest = .ok a ∧ a.status = 200 := by
  have form : Form.refusal? sampleRequest = .ok none := eq_ok_of_toOption (by decide +kernel)
  obtain ⟨rest, same⟩ := @answerTo_of_carried everywhereSettings sampleRequest _
    (some "HTTP_X_CERT") rfl rfl rfl rfl _ (.ofServer lookup_sampleRequest (by decide))
  obtain ⟨fields, summed⟩ := (isOk_summary_iff read_samplePem).2 presentable_sampleCertificate
  unfold view
  rw [form, ok_bind, same, summaryAnswer_of_ok summed]
  exact ⟨_, rfl, rfl⟩

/-- The small certificate is shown; without it there is nothing to see. -/
theorem view_shows_sampleRequest :
    let bare : Request := { sampleRequest with vars := [] }
    everywhereSettings.policyFlag.answer [] = .ok true ∧
      Request.ReadsTexts sampleRequest.vars (some "HTTP_X_CERT") ∧
      ∃ g, (Guard.build everywhereSettings).answer [] = .ok g ∧
        (∃ a, (g.before (.universal sampleNoon) sampleRequest
            (view everywhereSettings sampleRequest)).result = .ok (.inr a) ∧ a.status = 200 ∧
          a.Accepted (some "OU=Eng") sampleNoon) ∧
        (g.before (.universal sampleNoon) bare (view everywhereSettings bare)).result =
          .ok (.inl ⟨403, "X509 Authentication failure"⟩) := by
  intro bare
  obtain ⟨g, built, behind⟩ := @view_shows_accepted everywhereSettings [] _ (some "HTTP_X_CERT")
    (some "OU=Eng") rfl rfl rfl rfl rfl
  refine ⟨rfl, readsTexts_sampleRequest, g, built, ?_, ?_⟩
  · obtain ⟨shows, -, passes⟩ := behind sampleRequest sampleNoon rfl readsTexts_sampleRequest
    obtain ⟨a, viewed, ok⟩ := view_everywhereSettings
    have proven : ¬ sampleRequest.Unproven (some "HTTP_X_CERT") (some "OU=Eng") sampleNoon :=
      fun lacking => unproven_iff.1 lacking ⟨samplePem, sampleCertificate,
        .ofServer lookup_sampleRequest (by decide), read_samplePem, admits_sampleCertificate⟩
    have answered := passes proven (view everywhereSettings sampleRequest)
    rw [viewed] at answered
    exact ⟨a, by rw [viewed, answered]; rfl, ok, (shows a (by rw [viewed, answered]; rfl) ok).1⟩
  · have reads : Request.ReadsTexts bare.vars (some "HTTP_X_CERT") :=
      ⟨fun _ found => (nomatch found), fun _ _ _ _ _ found => nomatch found⟩
    obtain ⟨-, refuses, -⟩ := behind bare sampleNoon rfl reads
    refine refuses (.missing fun t carried => ?_) _
    cases carried with
    | ofServer found _ => cases found
    | ofProxy _ _ _ found _ => cases found

end CertGate
