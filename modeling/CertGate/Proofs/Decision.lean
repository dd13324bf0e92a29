import CertGate.Proofs.Admission
import CertGate.Proofs.Decided
import CertGate.Proofs.Presented

/-!
# Which requests a guard lets pass

`Request.Cleared` says when a request without an attached chain is to pass: enforcement is off, or
its path is not enforced, or it carries a certificate that is admitted. The main statement,
`check_eq_none_iff_cleared`, is that a guard built from settings lets exactly these requests pass,
and answers every other one with the one refusal there is. It fails where it meets an enforced path
that can be the beginning of no text (`Untold`), and once its gate is closed.
-/

namespace CertGate

/-- A path of which it cannot be told whether it is enforced: before any entry that begins it, one is
met that can be the beginning of no text. -/
inductive Untold (path : String) : Option (List Value) → Prop
  | entry {entries : List Value} {v : Value} (met : Meets path entries v) (unfit : ¬ Opens path v)
    (unlike : ¬ Misses path v) : Untold path (some entries)

/-- When a request is to pass, for the flag, the enforced paths, the header of a proxy and the text
that a subject has to contain. -/
inductive Request.Cleared (flag : Bool) (paths? : Option (List Value))
    (header? part? : Option String) (now : Moment) (r : Request) : Prop
  | unenforced (off : flag = false)
  | outside (paths : List Value) (limited : paths? = some paths)
    (apart : ∀ entry ∈ paths, Misses r.path entry)
  | admitted (leaf : String) (cert : Certificate) (carried : LeafText r.vars header? leaf)
    (read : (CertificateData.ofValue (.text leaf)).read = .ok cert) (good : cert.Admits part? now)

section Reach
variable {path : String} {paths? : Option (List Value)} {v : Value} {f : Failure}

theorem kind_of_textBeginsItem (fails : textBeginsItem path v = .error f) : f.kind = .type := by
  unfold textBeginsItem at fails
  split at fails <;> cases fails
  rfl

theorem kind_of_textBegins (fails : textBegins path v = .error f) : f.kind = .type := by
  unfold textBegins at fails
  split at fails
  · cases fails
  · obtain ⟨_, item, _, -, -, fails⟩ := (anyPasses_eq_iff (r := .error f) nofun).1 fails
    exact kind_of_textBeginsItem fails
  · cases fails
    rfl

theorem reaches_of_untold (untold : Untold path paths?) :
    ∃ f, reaches paths? path = .error f ∧ f.kind = .type := by
  obtain @⟨entries, v, met, unfit, unlike⟩ := untold
  cases begins : textBegins path v with
  | ok fits =>
    cases fits with
    | true => exact absurd (textBegins_eq_true_iff.1 begins) unfit
    | false => exact absurd (textBegins_eq_false_iff.1 begins) unlike
  | error f =>
    exact ⟨f, (reaches_eq_iff (r := .error f) nofun).2 ⟨v, met, begins⟩, kind_of_textBegins begins⟩

theorem reaches_of_not_untold (told : ¬ Untold path paths?) :
    ∃ inside, reaches paths? path = .ok inside := by
  cases paths? with
  | none => exact ⟨true, rfl⟩
  | some entries =>
    refine reaches_isOk_iff.2 fun v met => ?_
    by_cases opens : Opens path v
    · exact .inl opens
    · by_cases misses : Misses path v
      · exact .inr misses
      · exact absurd (.entry met opens misses) told

end Reach

/-- Whether the presented chain is accepted, in terms of the text that carries it. -/
theorem accepts_presented {vars : List (String × Value)} {header? : Option String}
    (reads : Request.ReadsTexts vars header?) (c : Config) {part? : Option String}
    (asked : c.certContains = .ofText? part?) (now : Moment) :
    ∃ rs?, Request.presented vars (.ofText? header?) = .ok rs? ∧
      ∃ accepted, (accepts c (.ofRecords? rs?) (.universal now)).result = .ok accepted ∧
        (accepted = true ↔ ∃ leaf cert, Request.LeafText vars header? leaf ∧
          (CertificateData.ofValue (.text leaf)).read = .ok cert ∧ cert.Admits part? now) := by
  by_cases carries : ∃ leaf, Request.LeafText vars header? leaf
  · obtain ⟨leaf, carried⟩ := carries
    obtain ⟨rest, chain⟩ := Request.presented_of_leafText carried
    obtain ⟨accepted, result, meaning⟩ :=
      result_accepts_certificate c part? asked (.ofValue (.text leaf)) rest now
    refine ⟨_, chain, accepted, result, meaning.trans ⟨?_, ?_⟩⟩
    · rintro ⟨cert, read, good⟩
      exact ⟨leaf, cert, carried, read, good⟩
    · rintro ⟨leaf', cert, carried', read, good⟩
      rw [carried'.unique carried] at read
      exact ⟨cert, read, good⟩
  · have no_text : ∀ leaf, ¬ Request.LeafText vars header? leaf := fun leaf h => carries ⟨leaf, h⟩
    refine ⟨none, Request.presented_of_no_leafText reads no_text, false, rfl, by simp, ?_⟩
    rintro ⟨leaf, _, carried, _⟩
    exact absurd carried (no_text leaf)

theorem accepted_iff_cleared {paths? : Option (List Value)} {header? part? : Option String}
    {now : Moment} {r : Request} {accepted : Bool}
    (meaning : accepted = true ↔ ∃ leaf cert, Request.LeafText r.vars header? leaf ∧
      (CertificateData.ofValue (.text leaf)).read = .ok cert ∧ cert.Admits part? now)
    (inside : reaches paths? r.path = .ok true) :
    accepted = true ↔ r.Cleared true paths? header? part? now := by
  constructor
  · intro yes
    obtain ⟨leaf, cert, carried, read, good⟩ := meaning.1 yes
    exact .admitted leaf cert carried read good
  · intro clear
    cases clear with
    | unenforced off => cases off
    | outside paths limited apart =>
      rw [limited, reaches_eq_false_iff.2 apart] at inside
      cases inside
    | admitted leaf cert carried read good => exact meaning.2 ⟨leaf, cert, carried, read, good⟩

theorem cleared_of_not_reaches {flag : Bool} {paths? : Option (List Value)}
    {header? part? : Option String} {now : Moment} {r : Request}
    (outside : reaches paths? r.path = .ok false) : r.Cleared flag paths? header? part? now := by
  cases paths? with
  | none => cases outside
  | some paths => exact .outside paths rfl (reaches_eq_false_iff.1 outside)

/-- Requests that are cleared get no answer from the guard, and all others get the refusal. -/
theorem answered_of_decided {answer : Except Failure (Option TextAnswer)} {passes : Bool} {clear : Prop}
    (meaning : passes = true ↔ clear)
    (decided : answer = .ok (if passes then none else some Guard.refusal)) :
    (answer = .ok none ↔ clear) ∧
      (¬ clear → answer = .ok (some ⟨403, "X509 Authentication failure"⟩)) := by
  subst decided
  cases passes with
  | true => exact ⟨iff_of_true rfl (meaning.1 rfl), fun blocked => absurd (meaning.1 rfl) blocked⟩
  | false =>
    have blocked : ¬ clear := fun h => Bool.false_ne_true (meaning.2 h)
    exact ⟨iff_of_false nofun blocked, fun _ => rfl⟩

/-- A guard lets exactly the cleared requests pass, for the flag and the paths that its settings
give, and every other request gets the same refusal. It fails on a path of which it cannot be told
whether it is enforced, and on every request once its gate is closed. -/
theorem check_eq_none_iff_cleared {s : Settings} {tally : Tally} {g : Guard} {options : Options}
    {header? part? : Option String} (built : (Guard.build s).answer tally = .ok g)
    (found : s.options = .ok options)
    (proxy : options.lookup "CERT_HEADER" = some (.ofText? header?))
    (subject : options.lookup "CERT_CONTAINS" = some (.ofText? part?))
    {r : Request} (unattached : r.attached = .value .null)
    (reads : Request.ReadsTexts r.vars header?) (now : Moment) :
    ∃ flag paths? c, s.policyFlag.answer tally = .ok flag ∧
      (flag = true → options.start >>= StartOptions.scope = .ok paths?) ∧
      g.gate = .ready c ∧ c.enforcedPaths = .ofItems? paths? ∧
      (Untold r.path paths? →
        ∃ f, (g.check (.universal now) r).result = .error f ∧ f.kind = .type) ∧
      (¬ Untold r.path paths? →
        ((g.check (.universal now) r).result = .ok none ↔
          r.Cleared flag paths? header? part? now) ∧
        (¬ r.Cleared flag paths? header? part? now →
          (g.check (.universal now) r).result =
            .ok (some ⟨403, "X509 Authentication failure"⟩))) ∧
      ((⟨g.header, g.gate.close⟩ : Guard).check (.universal now) r).result =
        .error (.notReady "shut_down") := by
  obtain ⟨_, found', header, c, started, ready⟩ := build_eq_ok_iff.1 built
  cases found.symm.trans found'
  have same : g.header = .ofText? header? := Option.some.inj (header.symm.trans proxy)
  obtain ⟨o, ho, cases_of_flag⟩ := (configureFrom_eq_ok_iff found).1 started
  have asked : o.certContains = .ofText? part? :=
    Option.some.inj ((start_eq_ok_iff.1 ho).1.symm.trans subject)
  have answer : ∀ rs?, Request.presented r.vars (.ofText? header?) = .ok rs? →
      (g.check (.universal now) r).result =
        Guard.reply <$> (verdict c (.text r.path) (.ofRecords? rs?) (.universal now)).result := by
    intro rs? chain
    rw [result_check, same, Request.chain?_of_unattached unattached, chain, ready]
    rfl
  have closed : ∀ rs?, Request.presented r.vars (.ofText? header?) = .ok rs? →
      ((⟨g.header, g.gate.close⟩ : Guard).check (.universal now) r).result =
        .error (.notReady "shut_down") := by
    intro rs? chain
    rw [result_check, same, Request.chain?_of_unattached unattached, chain, ready]
    rfl
  rcases cases_of_flag with ⟨off, rfl⟩ | ⟨on, paths?, scope, rfl⟩
  · obtain ⟨rs?, chain, -⟩ := accepts_presented reads (.on (.ofText? part?) none) rfl now
    have decided := answer rs? chain
    rw [result_verdict_off] at decided
    have clear : r.Cleared false none header? part? now := .unenforced rfl
    exact ⟨false, none, .off, off, nofun, ready, rfl, nofun,
      fun _ => answered_of_decided (iff_of_true rfl clear) decided, closed rs? chain⟩
  · obtain ⟨rs?, chain, accepted, result, meaning⟩ :=
      accepts_presented reads (.on o.certContains paths?) asked now
    have decided := answer rs? chain
    rw [result_verdict_on, result] at decided
    refine ⟨true, paths?, _, on, fun _ => by rw [ho, ok_bind, scope], ready, rfl,
      fun untold => ?_, fun told => ?_, closed rs? chain⟩
    · obtain ⟨f, fails, kind⟩ := reaches_of_untold untold
      rw [fails] at decided
      exact ⟨f, decided, kind⟩
    · obtain ⟨inside, told⟩ := reaches_of_not_untold told
      rw [told, ok_bind] at decided
      cases inside with
      | false =>
        have clear : r.Cleared true paths? header? part? now := cleared_of_not_reaches told
        exact answered_of_decided (iff_of_true rfl clear) decided
      | true =>
        refine answered_of_decided (accepted_iff_cleared meaning told) (decided.trans ?_)
        cases accepted <;> rfl

/-! ## A request that passes, and requests that nothing is decided on -/

/-- Settings that name every option on which a verdict depends. -/
def sampleSettings : Settings where
  auth? := some (.mapping [("ENFORCE", .text " Yes "), ("PATHS", .text "/reports, /admin"),
    ("CERT_CONTAINS", .text "OU=Eng"), ("CERT_HEADER", .text "HTTP_X_CERT")])
  mountPath := .text "/app"
  environment := []
  library := emptyLibrary

def sampleGuard : Guard where
  header := .text "HTTP_X_CERT"
  gate := .ready (.enforcing (.text "OU=Eng") (some ["/app/reports", "/app/admin"]))

/-- A request on an enforced path, with a certificate. -/
def sampleRequest : Request where
  verb := "GET"
  path := "/app/reports/1"
  pathInfo := "/reports/1"
  vars := [("SSL_CLIENT_CERT", .text samplePem)]
  attached := .value .null

theorem check_sampleRequest_eq_none :
    (Guard.build sampleSettings).answer [] = .ok sampleGuard ∧
      sampleRequest.attached = .value .null ∧
      Request.ReadsTexts sampleRequest.vars (some "HTTP_X_CERT") ∧
      (sampleGuard.check (.universal sampleNoon) sampleRequest).result = .ok none := by
  have built : (Guard.build sampleSettings).answer [] = .ok sampleGuard := by rfl
  have carried : sampleRequest.vars.lookup leafVariable = some (.text samplePem) := by rfl
  have reads : Request.ReadsTexts sampleRequest.vars (some "HTTP_X_CERT") := by
    constructor
    · intro v found
      exact ⟨samplePem, Option.some.inj (found.symm.trans carried)⟩
    · intro _ _ open_question
      rw [Request.given?_of_text carried (by decide)] at open_question
      cases open_question
  obtain ⟨flag, paths?, c, -, -, ready, limited, -, passes, -⟩ :=
    @check_eq_none_iff_cleared sampleSettings [] sampleGuard _ (some "HTTP_X_CERT") (some "OU=Eng")
      built rfl rfl rfl sampleRequest rfl reads sampleNoon
  obtain rfl : paths? = textPaths (some ["/app/reports", "/app/admin"]) := by
    cases ready
    cases paths? with
    | none => cases limited
    | some _ =>
      cases limited
      rfl
  have told : ¬ Untold sampleRequest.path (textPaths (some ["/app/reports", "/app/admin"])) := by
    intro untold
    obtain ⟨f, fails, -⟩ := reaches_of_untold untold
    rw [reaches_textPaths] at fails
    cases fails
  exact ⟨built, rfl, reads, (passes told).1.2 (.admitted samplePem sampleCertificate
    (.ofServer carried (by decide)) read_samplePem admits_sampleCertificate)⟩

/-- Settings with octets for the paths and the mount path. -/
def octetSettings : Settings := { bareSettings with
  auth? := some (.mapping [("ENFORCE", .bool true), ("PATHS", .list [.octets [47, 97]]),
    ("CONTEXT_PATH", .octets [47, 98])]) }

/-- A request with nothing in it. -/
def emptyRequest : Request := ⟨"GET", "/", "/", [], .value .null⟩

/-- Octets for the paths make a guard fail on every path, and so does a gate that is closed. -/
theorem check_undecided :
    (∃ g, (Guard.build octetSettings).answer [] = .ok g ∧
      ∀ now, (g.check now emptyRequest).result = .error (.badBeginning "bytes")) ∧
    ∃ g, (Guard.build { bareSettings with
        auth? := some (.mapping [("ENFORCE", .bool true)]) }).answer [] = .ok g ∧
      ∀ now, ((⟨g.header, g.gate.close⟩ : Guard).check now emptyRequest).result =
        .error (.notReady "shut_down") :=
  ⟨⟨⟨.null, .ready (.on .null (some [.octets [47, 98, 47, 97]]))⟩, rfl, fun _ => rfl⟩,
    ⟨.null, .ready (.on .null none)⟩, rfl, fun _ => rfl⟩

end CertGate
