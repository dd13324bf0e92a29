import CertGate.Proofs.Decision
import CertGate.Proofs.Extraction
import CertGate.Proofs.Numbered

/-!
# What clients can say in headers

A client writes the headers of its request, and nothing else among the variables. Of all headers only the
one that a proxy is configured to set is read, and not even that where the server has spoken: records are
attached, or the variable of the server is given.

* `IsHeader` : the names of headers; the server's own variables have others;
* `Request.Twin` : requests that differ in headers at most;
* `Request.Settled` : why the configured header makes no difference between two requests;
* `chain?_of_settled`, `check_of_settled` : such requests have one chain, one answer and one trail.
-/

namespace CertGate

/-- The names under which headers are found among the variables. -/
def IsHeader (name : String) : Prop := ∃ rest, name = "HTTP_" ++ rest

/-- The variables of the server for a chain begin with another word. -/
theorem not_isHeader_of_served (rest : String) : ¬ IsHeader ("SSL_CLIENT_CERT" ++ rest) := by
  rintro ⟨other, same⟩
  have first := congrArg (fun name : String => name.toList.head?) same
  simp [String.toList_append] at first

theorem not_isHeader_leafVariable : ¬ IsHeader leafVariable := by
  rw [← String.append_empty (s := leafVariable)]
  exact not_isHeader_of_served ""

theorem not_isHeader_chainVariable (n : Nat) : ¬ IsHeader (chainVariable n) := by
  have split : chainVariable n = "SSL_CLIENT_CERT" ++ ("_CHAIN_" ++ Text.decimalText n) := by
    rw [← String.append_assoc]
    rfl
  rw [split]
  exact not_isHeader_of_served _

namespace Request
variable {r r' : Request} {header? : Option String}

/-- Two requests that differ, if at all, in their headers. -/
structure Twin (r r' : Request) : Prop where
  verb : r.verb = r'.verb
  path : r.path = r'.path
  attached : r.attached = r'.attached
  vars : ∀ name, ¬ IsHeader name → r.vars.lookup name = r'.vars.lookup name

/-- Why the header of a proxy makes no difference between two requests: there is none, both say the same
in it, or the server itself has said who the client is. -/
inductive Settled (header? : Option String) (r r' : Request) : Prop
  | unnamed (none : header? = none ∨ header? = some "")
  | alike {name : String} (named : header? = some name)
    (same : r.vars.lookup name = r'.vars.lookup name)
  | attached (some : r.attached ≠ .value .null)
  | served (some : (given? r.vars leafVariable).isSome = true)

theorem Twin.given? (twins : r.Twin r') {name : String} (other : ¬ IsHeader name) :
    Request.given? r.vars name = Request.given? r'.vars name := by
  unfold Request.given?
  rw [twins.vars name other]

theorem forwarded_of_same {vars vars' : List (String × Value)} {name : String}
    (same : vars.lookup name = vars'.lookup name) :
    forwarded vars (.ofText? (some name)) = forwarded vars' (.ofText? (some name)) := by
  by_cases set : name = ""
  · subst set
    rw [forwarded_of_unnamed (.inr rfl), forwarded_of_unnamed (.inr rfl)]
  · have given : given? vars name = given? vars' name := by
      unfold Request.given?
      rw [same]
    rw [forwarded_of_named set, forwarded_of_named set, given]

theorem presented_of_settled (twins : r.Twin r') (settled : Settled header? r r')
    (unattached : r.attached = .value .null) :
    presented r.vars (.ofText? header?) = presented r'.vars (.ofText? header?) := by
  have leaf := twins.given? not_isHeader_leafVariable
  cases served : given? r.vars leafVariable with
  | some v =>
    have behind : numbered r.vars r.vars.length 0 = numbered r'.vars r'.vars.length 0 :=
      numbered_eq_of_same fun k => twins.vars _ (not_isHeader_chainVariable k)
    rw [presented_of_served served, presented_of_served (leaf ▸ served), behind]
  | none =>
    rw [presented_of_bare served, presented_of_bare (leaf ▸ served)]
    cases settled with
    | unnamed none => rw [forwarded_of_unnamed none, forwarded_of_unnamed none]
    | alike named same => rw [named, forwarded_of_same same]
    | attached some => exact absurd unattached some
    | served some =>
      rw [served] at some
      cases some

/-- Requests that differ in headers at most carry one chain, unless the header of a proxy is asked and says
something else in each. -/
theorem chain?_of_settled (twins : r.Twin r') (settled : Settled header? r r') :
    r.chain? (.ofText? header?) = r'.chain? (.ofText? header?) := by
  cases attached : r.attached with
  | records _ | passing _ =>
    unfold chain?
    rw [← twins.attached, attached]
  | value v =>
    cases null : v.isNull with
    | true =>
      cases v <;> cases null
      rw [chain?_of_unattached attached, chain?_of_unattached (twins.attached ▸ attached)]
      exact presented_of_settled twins settled attached
    | false =>
      unfold chain?
      rw [← twins.attached, attached]
      simp only [null, Bool.not_false, if_true]

end Request

/-- Such requests get one answer from a guard, and leave one trail. -/
theorem check_of_settled {g : Guard} {header? : Option String} (proxy : g.header = .ofText? header?)
    {r r' : Request} (twins : r.Twin r') (settled : Request.Settled header? r r') (now : Timestamp) :
    r.chain? g.header = r'.chain? g.header ∧ g.check now r = g.check now r' := by
  have chain : r.chain? g.header = r'.chain? g.header := by
    rw [proxy]
    exact Request.chain?_of_settled twins settled
  refine ⟨chain, ?_⟩
  unfold Guard.check
  rw [chain, twins.path, twins.verb]

/-- The sample request with a certificate in the header of the proxy too. -/
def forgedRequest : Request :=
  { sampleRequest with vars := ("HTTP_X_CERT", .text "forged") :: sampleRequest.vars }

theorem twin_forgedRequest : sampleRequest.Twin forgedRequest where
  verb := rfl
  path := rfl
  attached := rfl
  vars name other := by
    have ne : name ≠ "HTTP_X_CERT" := by
      rintro rfl
      exact other ⟨"X_CERT", by decide⟩
    show _ = List.lookup name (_ :: sampleRequest.vars)
    rw [List.lookup_cons, beq_false_of_ne ne]

theorem check_forgedRequest :
    sampleGuard.header = .ofText? (some "HTTP_X_CERT") ∧ sampleRequest.Twin forgedRequest ∧
      sampleRequest.vars.lookup "HTTP_X_CERT" ≠ forgedRequest.vars.lookup "HTTP_X_CERT" ∧
      ∀ now, sampleRequest.chain? sampleGuard.header = forgedRequest.chain? sampleGuard.header ∧
        sampleGuard.check now sampleRequest = sampleGuard.check now forgedRequest :=
  have proxy : sampleGuard.header = .ofText? (some "HTTP_X_CERT") := rfl
  ⟨proxy, twin_forgedRequest, nofun,
    check_of_settled proxy twin_forgedRequest (.served (by rfl))⟩

end CertGate
