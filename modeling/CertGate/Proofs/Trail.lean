import CertGate.Proofs.Decision

/-!
# What the trail says of a decision

All rejected requests get one answer, so that what was decided and why stands in the audit trail only.
The trail of a decision is empty where nothing is enforced; elsewhere it says why the path is enforced,
and last of all what the decision is.

* `Config.Enforces`, `Config.Spares` : what limits paths to some says of a path;
* `anyBegins_ends`, `inScope_ends`, `accepts_ends`, `verdict_ends` : one step, its result and its
  events together;
* `Config.Trailed` : the trail of a decision, by its texts;
* `trail_of_decision` : every decision has such a trail, and a guard adds one text when it refuses.
-/

namespace CertGate

/-! ## Paths -/

/-- The path is enforced: no paths are listed, or an entry of the list begins it and none before that one
does. -/
inductive Config.Enforces (c : Config) (path : String) : Option Value → Prop
  | everywhere (all : c.enforcedPaths = .null) : c.Enforces path none
  | listed {before : List Value} {entry : Value} {after : List (Except Failure Value)}
    (given : c.entries = .ok (before.map .ok ++ .ok entry :: after))
    (others : ∀ other ∈ before, Misses path other) (fits : Opens path entry) :
    c.Enforces path (some entry)

/-- No listed entry begins the path. -/
def Config.Spares (c : Config) (path : String) : Prop :=
  ∃ entries : List Value, c.entries = .ok (entries.map .ok) ∧ ∀ entry ∈ entries, Misses path entry

theorem not_opens_of_misses {path : String} {v : Value} (misses : Misses path v) : ¬ Opens path v := by
  intro opens
  cases (textBegins_eq_true_iff.2 opens).symm.trans (textBegins_eq_false_iff.2 misses)

theorem Config.Enforces.not_spares {c : Config} {path : String} {met? : Option Value}
    (inside : c.Enforces path met?) : ¬ c.Spares path := by
  rintro ⟨entries, given, spared⟩
  cases inside with
  | everywhere all =>
    unfold Config.entries at given
    rw [all] at given
    cases given
  | listed given' _ fits =>
    have same := Except.ok.inj (given'.symm.trans given)
    have mem : Except.ok (ε := Failure) _ ∈ entries.map .ok :=
      same ▸ List.mem_append_right _ List.mem_cons_self
    obtain ⟨_, mem, ⟨⟩⟩ := List.mem_map.1 mem
    exact not_opens_of_misses (spared _ mem) fits

/-- A test of entries that ends well has been told of each one whether it begins the path, up to the one
that does. -/
theorem anyBegins_ends {path : String} {steps : List (Except Failure Value)} {log : List Event}
    {found : Bool} (ends : anyBegins (.text path) steps = ⟨log, .ok found⟩) :
    (∃ entries : List Value, steps = entries.map .ok ∧ (∀ entry ∈ entries, Misses path entry) ∧
      found = false ∧ log = []) ∨
    ∃ (before : List Value) (entry : Value) (after : List (Except Failure Value)),
      steps = before.map .ok ++ .ok entry :: after ∧ (∀ other ∈ before, Misses path other) ∧
      Opens path entry ∧ found = true ∧ log = [.pathMatched path entry.toText] := by
  induction steps generalizing log with
  | nil =>
    cases ends
    exact .inl ⟨[], rfl, nofun, rfl, rfl⟩
  | cons step steps ih =>
    rw [anyBegins, Logged.liftM_bind_eq_ok_iff] at ends
    obtain ⟨entry, rfl, ends⟩ := ends
    rw [Logged.liftM_bind_eq_ok_iff] at ends
    obtain ⟨fits, test, ends⟩ := ends
    cases fits with
    | true =>
      cases ends
      exact .inr ⟨[], entry, steps, rfl, nofun, textBegins_eq_true_iff.1 test, rfl, rfl⟩
    | false =>
      have differs : Misses path entry := textBegins_eq_false_iff.1 test
      obtain ⟨entries, rfl, others, rest⟩ | ⟨before, entry', after, rfl, others, rest⟩ := ih ends
      · exact .inl ⟨entry :: entries, rfl, List.forall_mem_cons.2 ⟨differs, others⟩, rest⟩
      · exact .inr ⟨entry :: before, entry', after, rfl,
          List.forall_mem_cons.2 ⟨differs, others⟩, rest⟩

theorem inScope_ends {c : Config} {path : String} {log : List Event} {inside : Bool}
    (ends : inScope c (.text path) = ⟨log, .ok inside⟩) :
    (c.Spares path ∧ inside = false ∧ log = []) ∨
    ∃ met?, c.Enforces path met? ∧ inside = true ∧
      log = met?.toList.map fun entry => Event.pathMatched path entry.toText := by
  unfold inScope at ends
  split at ends
  · next all =>
    cases ends
    have none : c.enforcedPaths = .null := by
      cases value : c.enforcedPaths with
      | null => rfl
      | _ => rw [value] at all; cases all
    exact .inr ⟨Option.none, .everywhere none, rfl, rfl⟩
  · rw [Logged.liftM_bind_eq_ok_iff] at ends
    obtain ⟨steps, given, ends⟩ := ends
    obtain ⟨entries, rfl, spared, rfl, rfl⟩ | ⟨before, entry, after, rfl, others, fits, rfl, rfl⟩ :=
      anyBegins_ends ends
    · exact .inl ⟨⟨entries, given, spared⟩, rfl, rfl⟩
    · exact .inr ⟨some entry, .listed given others fits, rfl, rfl⟩

/-! ## Chains -/

/-- What is written down of a chain: why it is refused, or at most that the subject fits. -/
inductive Judged : Bool → List Event → Prop
  | refused (why : Rejection) : Judged false [.rejected why]
  | accepted : Judged true []
  | named (subject part : String) : Judged true [.subjectContains subject part]

theorem rejectFor_ends {why : Rejection} {log : List Event} {accepted : Bool}
    (ends : rejectFor why = ⟨log, .ok accepted⟩) : Judged accepted log := by
  cases ends
  exact .refused why

theorem subjectAccepted_ends {part : Value} {leaf : Record} {log : List Event} {accepted : Bool}
    (ends : subjectAccepted part leaf = ⟨log, .ok accepted⟩) : Judged accepted log := by
  unfold subjectAccepted at ends
  split at ends
  · cases ends
    exact .accepted
  · split at ends
    · exact rejectFor_ends ends
    · next subject _ =>
      obtain ⟨found, -, ends⟩ := Logged.liftM_bind_eq_ok_iff.1 ends
      split at ends
      · cases ends
        exact .named subject.toText part.toText
      · exact rejectFor_ends ends

theorem accepts_ends {c : Config} {chain : Chain} {now : Timestamp} {log : List Event}
    {accepted : Bool} (ends : accepts c chain now = ⟨log, .ok accepted⟩) : Judged accepted log := by
  obtain ⟨leaf?, -, ends⟩ := Logged.liftM_bind_eq_ok_iff.1 ends
  cases leaf? with
  | none => exact rejectFor_ends ends
  | some leaf =>
    dsimp only at ends
    split at ends
    · exact rejectFor_ends ends
    · exact subjectAccepted_ends ends

/-! ## Decisions -/

/-- How the trail of an enforced path ends with a decision. -/
inductive Verdict.Ends : Verdict → List String → Prop
  | rejected (why : String) : Ends .reject ["X509 rejected: " ++ why]
  | accepted : Ends .forward ["Cert is valid"]
  | named (subject part : String) :
    Ends .forward ["Cert " ++ subject ++ " contains " ++ part, "Cert is valid"]

theorem verdict_ends {c : Config} {path : String} {chain : Chain} {now : Timestamp}
    {log : List Event} {v : Verdict} (ends : verdict c (.text path) chain now = ⟨log, .ok v⟩) :
    ((c.isEnforcing = false ∨ c.Spares path) ∧ v = .forward ∧ log = []) ∨
    ∃ met? ending, c.isEnforcing = true ∧ c.Enforces path met? ∧ v.Ends (ending.map Event.text) ∧
      log = met?.toList.map (fun entry => Event.pathMatched path entry.toText) ++
        .enforcingOn path :: ending := by
  unfold verdict at ends
  cases on : c.isEnforcing with
  | false =>
    rw [on] at ends
    cases ends
    exact .inl ⟨.inl rfl, rfl, rfl⟩
  | true =>
    rw [on] at ends
    simp only [Bool.not_true, Bool.false_eq_true, if_false] at ends
    rw [Logged.bind_eq_ok_iff] at ends
    obtain ⟨first, inside, more, scope, ends, rfl⟩ := ends
    obtain ⟨spared, rfl, rfl⟩ | ⟨met?, inside, rfl, rfl⟩ := inScope_ends scope
    · cases ends
      exact .inl ⟨.inr spared, rfl, rfl⟩
    · simp only [Bool.not_true, Bool.false_eq_true, if_false] at ends
      rw [Logged.tell_bind_eq_ok_iff] at ends
      obtain ⟨more, ends, rfl⟩ := ends
      rw [Logged.bind_eq_ok_iff] at ends
      obtain ⟨judged, accepted, last, judgement, ends, rfl⟩ := ends
      refine .inr ⟨met?, _, rfl, inside, ?_, rfl⟩
      cases accepts_ends judgement with
      | refused why =>
        cases ends
        exact .rejected (why.textWith Failure.message)
      | accepted =>
        cases ends
        exact .accepted
      | named subject part =>
        cases ends
        exact .named subject part

/-! ## Texts -/

theorem head_append {s : String} {c : Char} (head : s.toList.head? = some c) (t : String) :
    (s ++ t).toList.head? = some c := by
  rw [String.toList_append, List.head?_append, head]
  rfl

theorem ne_of_heads {s t : String} {c d : Char} (head : s.toList.head? = some c)
    (head' : t.toList.head? = some d) (ne : c ≠ d) : s ≠ t := by
  rintro rfl
  exact ne (Option.some.inj (head.symm.trans head'))

/-- The first letter of an event. -/
def Event.initial : Event → Char
  | starting => 'I'
  | subjectNeeds _ | subjectContains .. | accepted => 'C'
  | enforcing _ | enforcingPath _ | enforcingOn _ => 'E'
  | pathMatched .. => 'P'
  | rejected _ => 'X'
  | forbidden .. => 'R'

theorem head_text (e : Event) : e.text.toList.head? = some e.initial := by
  cases e with
  | starting | accepted => rfl
  | pathMatched | subjectContains | forbidden =>
    exact head_append (head_append (head_append (by rfl) _) _) _
  | _ => exact head_append (by rfl) _

/-- A text that says nothing of the decision. -/
def Undecided (text : String) : Prop :=
  text ≠ "Cert is valid" ∧ ∀ why, text ≠ "X509 rejected: " ++ why

theorem undecided_of_initial {e : Event} {c : Char} (initial : e.initial = c) (accepting : c ≠ 'C')
    (rejecting : c ≠ 'X') : Undecided e.text := by
  subst initial
  exact ⟨ne_of_heads (head_text e) (by rfl) accepting,
    fun _ => ne_of_heads (head_text e) (head_append (by rfl) _) rejecting⟩

/-- A text that names a subject is longer than the one that accepts it. -/
theorem undecided_named (subject part : String) :
    Undecided ("Cert " ++ subject ++ " contains " ++ part) := by
  constructor
  · intro same
    have lengths := congrArg String.length same
    rw [String.length_append, String.length_append, String.length_append] at lengths
    have front : "Cert ".length = 5 := by rfl
    have middle : " contains ".length = 10 := by rfl
    have short : "Cert is valid".length = 13 := by rfl
    omega
  · intro why
    exact ne_of_heads (c := 'C') (head_text (.subjectContains subject part))
      (head_append (by rfl) _) (by decide)

theorem Verdict.Ends.ne_nil {v : Verdict} {ending : List String} (ends : v.Ends ending) :
    ending ≠ [] := by
  cases ends <;> exact List.cons_ne_nil _ _

theorem Verdict.Ends.undecided {v : Verdict} {ending : List String} (ends : v.Ends ending) :
    ∀ text ∈ ending.dropLast, Undecided text := by
  cases ends with
  | rejected why => nofun
  | accepted => nofun
  | named subject part =>
    intro text mem
    obtain rfl := List.mem_singleton.1 mem
    exact undecided_named subject part

/-- Before its ending a trail says nothing of the decision. -/
theorem undecided_front (path : String) (met? : Option Value) :
    ∀ text ∈ met?.toList.map (fun entry => "Path " ++ path ++ " matched " ++ entry.toText) ++
      ["Enforcing X509 on " ++ path], Undecided text := by
  intro text mem
  obtain mem | mem := List.mem_append.1 mem
  · obtain ⟨entry, -, rfl⟩ := List.mem_map.1 mem
    exact undecided_of_initial (e := .pathMatched path entry.toText) (c := 'P') rfl (by decide)
      (by decide)
  · obtain rfl := List.mem_singleton.1 mem
    exact undecided_of_initial (e := .enforcingOn path) (c := 'E') rfl (by decide) (by decide)

/-- The trail of a decision on a path. Where nothing is enforced it is empty; elsewhere it says which path
is enforced, by which entry, and the decision, which stands last and nowhere else. -/
structure Config.Trailed (c : Config) (path : String) (v : Verdict) (texts : List String) : Prop where
  outside : c.isEnforcing = false ∨ c.Spares path → v = .forward ∧ texts = []
  inside : c.isEnforcing = true → ¬ c.Spares path → ∃ met? ending,
    c.Enforces path met? ∧ v.Ends ending ∧
    texts = met?.toList.map (fun entry => "Path " ++ path ++ " matched " ++ entry.toText) ++
      ("Enforcing X509 on " ++ path) :: ending
  undecided : ∀ text ∈ texts.dropLast, Undecided text

theorem trailed_of_spared {c : Config} {path : String}
    (outside : c.isEnforcing = false ∨ c.Spares path) : c.Trailed path .forward [] := by
  refine ⟨fun _ => ⟨rfl, rfl⟩, fun on covered => ?_, nofun⟩
  obtain off | spared := outside
  · cases on.symm.trans off
  · exact absurd spared covered

theorem trailed_of_enforced {c : Config} {path : String} {met? : Option Value} {v : Verdict}
    {ending : List String} (on : c.isEnforcing = true) (inside : c.Enforces path met?)
    (decides : v.Ends ending) :
    c.Trailed path v (met?.toList.map (fun entry => "Path " ++ path ++ " matched " ++ entry.toText) ++
      ("Enforcing X509 on " ++ path) :: ending) := by
  refine ⟨?_, fun _ _ => ⟨met?, ending, inside, decides, rfl⟩, ?_⟩
  · rintro (off | spared)
    · cases on.symm.trans off
    · exact absurd spared inside.not_spares
  · intro text mem
    rw [List.append_cons, List.dropLast_append_of_ne_nil decides.ne_nil] at mem
    obtain mem | mem := List.mem_append.1 mem
    · exact undecided_front path met? text mem
    · exact decides.undecided text mem

theorem trailed_of_ends {c : Config} {path : String} {chain : Chain} {now : Timestamp}
    {log : List Event} {v : Verdict} (ends : verdict c (.text path) chain now = ⟨log, .ok v⟩) :
    c.Trailed path v (log.map Event.text) := by
  obtain ⟨outside, rfl, rfl⟩ | ⟨met?, ending, on, inside, decides, rfl⟩ := verdict_ends ends
  · exact trailed_of_spared outside
  · rw [List.map_append, List.map_map]
    exact trailed_of_enforced on inside decides

/-! ## What a gate writes -/

/-- An operation that writes only what the gate says. -/
def Logged.FromGate {α : Type} (m : Logged α) : Prop := ∀ e ∈ m.log, e.source = .gate

namespace Logged
variable {α β : Type}

theorem fromGate_liftM (r : Except Failure α) : FromGate (liftM r : Logged α) := nofun

theorem fromGate_pure (a : α) : FromGate (pure a : Logged α) := nofun

theorem fromGate_tell {e : Event} (own : e.source = .gate) : FromGate (tell e) := by
  intro e' mem
  obtain rfl := List.mem_singleton.1 mem
  exact own

theorem FromGate.bind {m : Logged α} {next : α → Logged β} (first : m.FromGate)
    (rest : ∀ a, (next a).FromGate) : (m >>= next).FromGate := by
  intro e mem
  cases result : m.result with
  | error f =>
    rw [bind_eq_of_error result] at mem
    exact first e mem
  | ok a =>
    rw [bind_eq_of_ok result] at mem
    obtain mem | mem := List.mem_append.1 mem
    · exact first e mem
    · exact rest a e mem

end Logged

section FromGate
open Logged

theorem fromGate_rejectFor (why : Rejection) : (rejectFor why).FromGate :=
  (fromGate_tell rfl).bind fun _ => fromGate_pure _

theorem fromGate_anyBegins (path : Value) (steps : List (Except Failure Value)) :
    (anyBegins path steps).FromGate := by
  induction steps with
  | nil => exact fromGate_pure _
  | cons step steps ih =>
    apply (fromGate_liftM _).bind
    intro entry
    apply (fromGate_liftM _).bind
    intro fits
    split
    · exact (fromGate_tell rfl).bind fun _ => fromGate_pure _
    · exact ih

theorem fromGate_inScope (c : Config) (path : Value) : (inScope c path).FromGate := by
  unfold inScope
  split
  · exact fromGate_pure _
  · exact (fromGate_liftM _).bind fun steps => fromGate_anyBegins path steps

theorem fromGate_subjectAccepted (part : Value) (leaf : Record) :
    (subjectAccepted part leaf).FromGate := by
  unfold subjectAccepted
  split
  · exact fromGate_pure _
  · split
    · exact fromGate_rejectFor _
    · apply (fromGate_liftM _).bind
      intro found
      split
      · exact (fromGate_tell rfl).bind fun _ => fromGate_pure _
      · exact fromGate_rejectFor _

theorem fromGate_accepts (c : Config) (chain : Chain) (now : Timestamp) :
    (accepts c chain now).FromGate := by
  apply (fromGate_liftM _).bind
  intro leaf?
  cases leaf? with
  | none => exact fromGate_rejectFor _
  | some leaf =>
    dsimp only
    split
    · exact fromGate_rejectFor _
    · exact fromGate_subjectAccepted _ _

theorem fromGate_verdict (c : Config) (path : Value) (chain : Chain) (now : Timestamp) :
    (verdict c path chain now).FromGate := by
  unfold verdict
  split
  · exact fromGate_pure _
  · apply (fromGate_inScope c path).bind
    intro inside
    split
    · exact fromGate_pure _
    · apply (fromGate_tell rfl).bind
      intro _
      apply (fromGate_accepts c chain now).bind
      intro accepted
      split
      · exact (fromGate_tell rfl).bind fun _ => fromGate_pure _
      · exact fromGate_pure _

theorem fromGate_evaluate (g : Gate) (path : Value) (chain : Chain) (now : Timestamp) :
    (g.evaluate path chain now).FromGate := by
  unfold Gate.evaluate
  split
  · exact fromGate_verdict _ path chain now
  · nofun
  · nofun

end FromGate

theorem text_of_gate {e : Event} (own : e.source = .gate) (rest : String) :
    e.text ≠ "Rejecting " ++ rest := by
  apply ne_of_heads (head_text e) (head_append (c := 'R') (by rfl) _)
  cases e with
  | forbidden => cases own
  | _ => simp [Event.initial]

/-! ## Guards -/

/-- What the gate of a guard writes down of a request, if it is asked at all. -/
def Guard.gateLog (g : Guard) (now : Timestamp) (r : Request) : List Event :=
  match r.chain? g.header with
  | .error _ => []
  | .ok chain => (g.gate.evaluate (.text r.path) (.ofRecords? chain) now).log

theorem log_check (g : Guard) (now : Timestamp) (r : Request) :
    (g.check now r).log = g.gateLog now r ++
      match (g.check now r).result with
      | .ok (some _) => [.forbidden r.verb r.path]
      | _ => [] := by
  unfold Guard.check Guard.gateLog
  cases r.chain? g.header with
  | error f => rfl
  | ok chain =>
    rw [Logged.liftM_ok_bind]
    dsimp only
    generalize g.gate.evaluate (.text r.path) (.ofRecords? chain) now = decision
    obtain ⟨log, result⟩ := decision
    cases result with
    | error f => exact (List.append_nil log).symm
    | ok v =>
      cases v with
      | forward => rfl
      | reject => rfl

theorem source_of_mem_gateLog {g : Guard} {now : Timestamp} {r : Request} {e : Event}
    (mem : e ∈ g.gateLog now r) : e.source = .gate := by
  unfold Guard.gateLog at mem
  split at mem
  · cases mem
  · exact fromGate_evaluate _ _ _ _ e mem

/-- The answer of a guard to a request, if it gives one. -/
theorem status_of_check {g : Guard} {now : Timestamp} {r : Request} {answer : TextAnswer}
    (refused : (g.check now r).result = .ok (some answer)) : answer.status = 403 := by
  rw [result_check, bind_eq_ok_iff] at refused
  obtain ⟨chain, -, decided⟩ := refused
  obtain ⟨v, -, reply⟩ := map_eq_ok_iff.1 decided
  cases v with
  | forward => cases reply
  | reject =>
    cases reply
    rfl

/-- The trail matches the decision. A gate that decides has written down why the path is enforced and at
last the decision, or nothing if it is not enforced; a guard that answers with status 403, and no other,
adds to what its gate has written that it rejects the request. -/
theorem trail_of_decision :
    (∀ (c : Config) (path : String) (chain : Chain) (now : Timestamp) (log : List Event) (v : Verdict),
      (Gate.ready c).evaluate (.text path) chain now = ⟨log, .ok v⟩ →
        c.Trailed path v (log.map Event.text)) ∧
    ∀ (g : Guard) (now : Timestamp) (r : Request),
      let gate := (g.gateLog now r).map Event.text
      let texts := (g.check now r).log.map Event.text
      (∀ text ∈ gate, ∀ rest, text ≠ "Rejecting " ++ rest) ∧
      ((∃ answer, (g.check now r).result = .ok (some answer) ∧ answer.status = 403) →
        texts = gate ++ ["Rejecting " ++ r.verb ++ " " ++ r.path]) ∧
      ((∀ answer, (g.check now r).result = .ok (some answer) → answer.status ≠ 403) →
        texts = gate) := by
  refine ⟨fun c path chain now log v ends => trailed_of_ends ends, fun g now r => ⟨?_, ?_, ?_⟩⟩
  · intro text mem rest
    obtain ⟨e, own, rfl⟩ := List.mem_map.1 mem
    exact text_of_gate (source_of_mem_gateLog own) rest
  · rintro ⟨answer, refused, -⟩
    rw [log_check, refused, List.map_append]
    rfl
  · intro passed
    rw [log_check]
    split
    · next answer refused => exact absurd (status_of_check refused) (passed answer refused)
    · rw [List.append_nil]

/-- A request on an enforced path, without a certificate. -/
def bareRequest : Request where
  verb := "GET"
  path := "/app/admin/1"
  pathInfo := "/admin/1"
  vars := []
  attached := .value .null

theorem trail_of_bareRequest :
    let c : Config := .enforcing (.text "OU=Eng") (some ["/app/reports", "/app/admin"])
    let log : List Event := [.pathMatched "/app/admin/1" "/app/admin", .enforcingOn "/app/admin/1",
      .rejected .noCertificate]
    (Gate.ready c).evaluate (.text "/app/admin/1") (.value .null) (.universal sampleNoon) =
        ⟨log, .ok .reject⟩ ∧
      c.Trailed "/app/admin/1" .reject (log.map Event.text) ∧
      (sampleGuard.check (.universal sampleNoon) bareRequest).result = .ok (some Guard.refusal) ∧
      (sampleGuard.check (.universal sampleNoon) bareRequest).log.map Event.text =
        log.map Event.text ++ ["Rejecting GET /app/admin/1"] := by
  intro c log
  have decided : (Gate.ready c).evaluate (.text "/app/admin/1") (.value .null)
      (.universal sampleNoon) = ⟨log, .ok .reject⟩ := by rfl
  have refused : (sampleGuard.check (.universal sampleNoon) bareRequest).result =
      .ok (some Guard.refusal) := by rfl
  have written : sampleGuard.gateLog (.universal sampleNoon) bareRequest = log := by rfl
  have texts := (trail_of_decision.2 sampleGuard (.universal sampleNoon) bareRequest).2.1
    ⟨_, refused, rfl⟩
  rw [written] at texts
  exact ⟨decided, trail_of_decision.1 _ _ _ _ _ _ decided, refused, texts⟩

end CertGate
