import CertGate.Proofs.Start

/-!
# What a verdict depends on

The result of each step of a verdict, its events left aside, on the configurations that a start can
give.

* `Opens`, `Misses` : the entries that begin a path, and those that do not; with all others it is a
  failure to ask (`textBegins_eq_true_iff`, `textBegins_eq_false_iff`);
* `reaches` : whether a path is enforced, which is all of `inScope` (`result_inScope_on`). It is told by
  the first entry that does not miss the path (`reaches_eq_iff`). With texts for the enforced paths it is
  `covers` (`reaches_textPaths`, `covers_iff`);
* `result_subjectAccepted`, `result_accepts_records`, `result_accepts_null` : whether a chain is
  accepted, in terms of what its first record gives when it is read;
* `result_verdict_off`, `result_verdict_of_inScope`, `result_verdict_on`, `result_verdict_enforcing` :
  the verdict;
* `Guard.reply`, `result_check` : the answer of a guard to a verdict.
-/

namespace CertGate

/-! ## Paths -/

/-- An entry that begins a path: a text in front of it, or a tuple in which such a text comes before
anything but texts. -/
inductive Opens (path : String) : Value → Prop
  | text (start rest : String) (begins : path = start ++ rest) : Opens path (.text start)
  | tuple (before : List String) (start rest : String) (after : List Value)
    (apart : ∀ other ∈ before, ∀ rest, path ≠ other ++ rest) (begins : path = start ++ rest) :
    Opens path (.tuple (before.map .text ++ .text start :: after))

/-- An entry that does not begin a path: another text, or a tuple of other texts. -/
inductive Misses (path : String) : Value → Prop
  | text (start : String) (apart : ∀ rest, path ≠ start ++ rest) : Misses path (.text start)
  | tuple (starts : List String) (apart : ∀ start ∈ starts, ∀ rest, path ≠ start ++ rest) :
    Misses path (.tuple (starts.map .text))

section First
variable {test : Value → Except Failure Bool} {v : Value} {vs : List Value} {r : Except Failure Bool}

theorem anyPasses_of_fails (fails : test v = .ok false) :
    anyPasses test (v :: vs) = anyPasses test vs := by
  rw [anyPasses, fails]
  rfl

theorem anyPasses_of_ends (ends : test v ≠ .ok false) : anyPasses test (v :: vs) = test v := by
  rw [anyPasses]
  cases first : test v with
  | error f => rfl
  | ok fits =>
    cases fits with
    | true => rfl
    | false => exact absurd first ends

theorem anyPasses_eq_false_iff :
    anyPasses test vs = .ok false ↔ ∀ v ∈ vs, test v = .ok false := by
  induction vs with
  | nil => simp [anyPasses]
  | cons v vs ih =>
    rw [List.forall_mem_cons]
    by_cases fails : test v = .ok false
    · rw [anyPasses_of_fails fails, ih]
      simp [fails]
    · rw [anyPasses_of_ends fails]
      simp [fails]

/-- The search comes to a result when no value is met that cannot be tested. -/
theorem anyPasses_isOk_iff : (∃ fits, anyPasses test vs = .ok fits) ↔
    ∀ before v after, vs = before ++ v :: after → (∀ w ∈ before, test w = .ok false) →
      ∃ fits, test v = .ok fits := by
  induction vs with
  | nil => exact iff_of_true ⟨false, rfl⟩ (by simp)
  | cons v vs ih =>
    by_cases fails : test v = .ok false
    · rw [anyPasses_of_fails fails, ih]
      constructor
      · rintro told (_ | ⟨u, before⟩) w after split others
        · obtain ⟨rfl, rfl⟩ := List.cons.inj split
          exact ⟨false, fails⟩
        · obtain ⟨rfl, rfl⟩ := List.cons.inj split
          exact told before w after rfl (List.forall_mem_cons.1 others).2
      · rintro told before w after rfl others
        exact told (v :: before) w after rfl (List.forall_mem_cons.2 ⟨fails, others⟩)
    · rw [anyPasses_of_ends fails]
      constructor
      · rintro told (_ | ⟨u, before⟩) w after split others
        · obtain ⟨rfl, rfl⟩ := List.cons.inj split
          exact told
        · obtain ⟨rfl, rfl⟩ := List.cons.inj split
          exact absurd (others v (by simp)) fails
      · intro told
        exact told [] v vs rfl nofun

/-- The search ends, well or not, with the first entry that does not fail the test. -/
theorem anyPasses_eq_iff (ends : r ≠ .ok false) :
    anyPasses test vs = r ↔ ∃ before v after, vs = before ++ v :: after ∧
      (∀ w ∈ before, test w = .ok false) ∧ test v = r := by
  induction vs with
  | nil =>
    refine iff_of_false (fun same => ends same.symm) ?_
    rintro ⟨before, v, after, split, -⟩
    simp at split
  | cons v vs ih =>
    by_cases fails : test v = .ok false
    · rw [anyPasses_of_fails fails, ih]
      constructor
      · rintro ⟨before, w, after, rfl, fail, last⟩
        exact ⟨v :: before, w, after, rfl, List.forall_mem_cons.2 ⟨fails, fail⟩, last⟩
      · rintro ⟨_ | ⟨u, before⟩, w, after, split, fail, last⟩
        · obtain ⟨rfl, rfl⟩ := List.cons.inj split
          exact absurd (last.symm.trans fails) ends
        · obtain ⟨rfl, rfl⟩ := List.cons.inj split
          exact ⟨before, w, after, rfl, (List.forall_mem_cons.1 fail).2, last⟩
    · rw [anyPasses_of_ends fails]
      constructor
      · intro last
        exact ⟨[], v, vs, rfl, nofun, last⟩
      · rintro ⟨_ | ⟨u, before⟩, w, after, split, fail, last⟩
        · obtain ⟨rfl, rfl⟩ := List.cons.inj split
          exact last
        · obtain ⟨rfl, rfl⟩ := List.cons.inj split
          exact absurd (fail v (by simp)) fails

end First

section Begins
variable {path : String} {v : Value}

theorem startsText_eq_false_iff {start : String} :
    Text.startsText start path = false ↔ ∀ rest, path ≠ start ++ rest := by
  rw [← Bool.not_eq_true, Text.startsText_iff, not_exists]

theorem textBeginsItem_eq_false_iff :
    textBeginsItem path v = .ok false ↔ ∃ start, v = .text start ∧ ∀ rest, path ≠ start ++ rest := by
  cases v with
  | text start =>
    rw [textBeginsItem, Except.ok.injEq, startsText_eq_false_iff]
    simp
  | _ => exact iff_of_false nofun nofun

theorem textBeginsItem_eq_true_iff :
    textBeginsItem path v = .ok true ↔ ∃ start rest, v = .text start ∧ path = start ++ rest := by
  cases v with
  | text start =>
    rw [textBeginsItem, Except.ok.injEq, Text.startsText_iff]
    simp
  | _ => exact iff_of_false nofun nofun

/-- Entries that are all texts of some kind are a list of texts of that kind. -/
theorem forall_text_iff {p : String → Prop} {vs : List Value} :
    (∀ v ∈ vs, ∃ s, v = .text s ∧ p s) ↔ ∃ ss : List String, vs = ss.map .text ∧ ∀ s ∈ ss, p s := by
  induction vs with
  | nil => exact iff_of_true nofun ⟨[], rfl, nofun⟩
  | cons v vs ih =>
    rw [List.forall_mem_cons, ih]
    constructor
    · rintro ⟨⟨s, rfl, fits⟩, ss, rfl, rest⟩
      exact ⟨s :: ss, rfl, List.forall_mem_cons.2 ⟨fits, rest⟩⟩
    · rintro ⟨_ | ⟨s, ss⟩, split, all⟩
      · cases split
      · obtain ⟨rfl, rfl⟩ := List.cons.inj split
        exact ⟨⟨s, rfl, all s (by simp)⟩, ss, rfl, fun t mem => all t (by simp [mem])⟩

theorem textBegins_eq_true_iff : textBegins path v = .ok true ↔ Opens path v := by
  constructor
  · intro begins
    cases v with
    | text start =>
      obtain ⟨rest, begins⟩ := Text.startsText_iff.1 (Except.ok.inj begins)
      exact .text start rest begins
    | tuple entries =>
      obtain ⟨before, _, after, rfl, others, first⟩ := (anyPasses_eq_iff (by simp)).1 begins
      obtain ⟨start, rest, rfl, same⟩ := textBeginsItem_eq_true_iff.1 first
      simp only [textBeginsItem_eq_false_iff] at others
      obtain ⟨texts, rfl, apart⟩ := forall_text_iff.1 others
      exact .tuple texts start rest after apart same
    | _ => cases begins
  · rintro (⟨start, rest, begins⟩ | ⟨before, start, rest, after, apart, begins⟩)
    · rw [textBegins, Text.startsText_iff.2 ⟨rest, begins⟩]
    · refine (anyPasses_eq_iff (by simp)).2 ⟨_, _, after, rfl, ?_,
        textBeginsItem_eq_true_iff.2 ⟨start, rest, rfl, begins⟩⟩
      simp only [textBeginsItem_eq_false_iff]
      exact forall_text_iff.2 ⟨before, rfl, apart⟩

theorem textBegins_eq_false_iff : textBegins path v = .ok false ↔ Misses path v := by
  constructor
  · intro misses
    cases v with
    | text start => exact .text start (startsText_eq_false_iff.1 (Except.ok.inj misses))
    | tuple entries =>
      have all := anyPasses_eq_false_iff.1 misses
      simp only [textBeginsItem_eq_false_iff] at all
      obtain ⟨starts, rfl, apart⟩ := forall_text_iff.1 all
      exact .tuple starts apart
    | _ => cases misses
  · rintro (⟨start, apart⟩ | ⟨starts, apart⟩)
    · rw [textBegins, startsText_eq_false_iff.2 apart]
    · refine anyPasses_eq_false_iff.2 ?_
      simp only [textBeginsItem_eq_false_iff]
      exact forall_text_iff.2 ⟨starts, rfl, apart⟩

end Begins

/-- Whether a path is enforced: all are, unless some beginnings are given. What cannot be the
beginning of a text is a failure, if no beginning in front of it fits. -/
def reaches : Option (List Value) → String → Except Failure Bool
  | none, _ => .ok true
  | some entries, path => anyPasses (textBegins path) entries

/-- An entry that is looked at because all entries in front of it miss a path. -/
structure Meets (path : String) (entries : List Value) (v : Value) : Prop where
  split : ∃ before after, entries = before ++ v :: after ∧ ∀ w ∈ before, Misses path w

section Reaches
variable {path : String} {entries : List Value}

theorem reaches_eq_false_iff :
    reaches (some entries) path = .ok false ↔ ∀ v ∈ entries, Misses path v := by
  rw [reaches, anyPasses_eq_false_iff]
  simp only [textBegins_eq_false_iff]

theorem reaches_eq_iff {r : Except Failure Bool} (ends : r ≠ .ok false) :
    reaches (some entries) path = r ↔ ∃ v, Meets path entries v ∧ textBegins path v = r := by
  rw [reaches, anyPasses_eq_iff ends]
  simp only [textBegins_eq_false_iff]
  constructor
  · rintro ⟨before, v, after, split, others, last⟩
    exact ⟨v, ⟨before, after, split, others⟩, last⟩
  · rintro ⟨v, ⟨before, after, split, others⟩, last⟩
    exact ⟨before, v, after, split, others, last⟩

/-- It cannot be told whether a path is enforced when an entry is met that can be the beginning of no
text. -/
theorem reaches_isOk_iff : (∃ inside, reaches (some entries) path = .ok inside) ↔
    ∀ v, Meets path entries v → Opens path v ∨ Misses path v := by
  constructor
  · rintro ⟨inside, told⟩ v met
    cases begins : textBegins path v with
    | ok fits =>
      cases fits with
      | true => exact .inl (textBegins_eq_true_iff.1 begins)
      | false => exact .inr (textBegins_eq_false_iff.1 begins)
    | error f =>
      cases told.symm.trans ((reaches_eq_iff (r := .error f) nofun).2 ⟨v, met, begins⟩)
  · intro fit
    cases told : reaches (some entries) path with
    | ok inside => exact ⟨inside, rfl⟩
    | error f =>
      obtain ⟨v, met, fails⟩ := (reaches_eq_iff (r := .error f) nofun).1 told
      rcases fit v met with opens | misses
      · cases fails.symm.trans (textBegins_eq_true_iff.2 opens)
      · cases fails.symm.trans (textBegins_eq_false_iff.2 misses)

end Reaches

/-- Whether a path is enforced: all are, unless some beginnings are given. -/
def covers : Option (List String) → String → Bool
  | none, _ => true
  | some starts, path => starts.any fun start => Text.startsText start path

theorem covers_iff {starts? : Option (List String)} {path : String} :
    covers starts? path = true ↔
      ∀ starts, starts? = some starts → ∃ start ∈ starts, ∃ rest, path = start ++ rest := by
  cases starts? with
  | none => simp [covers]
  | some starts => simp [covers, Text.startsText_iff]

theorem result_anyBegins (path : Value) (entries : List Value) :
    (anyBegins path (entries.map .ok)).result = anyPasses path.beginsWith entries := by
  induction entries with
  | nil => rfl
  | cons entry entries ih =>
    rw [List.map_cons, anyBegins, anyPasses, Logged.liftM_ok_bind, Logged.result_bind,
      Logged.result_liftM]
    cases path.beginsWith entry with
    | error f => rfl
    | ok fits =>
      cases fits with
      | true => rfl
      | false => exact ih

theorem result_inScope_on (part : Value) (paths? : Option (List Value)) (path : String) :
    (inScope (.on part paths?) (.text path)).result = reaches paths? path := by
  cases paths? with
  | none => rfl
  | some entries =>
    have open_list : inScope (.on part (some entries)) (.text path) =
        anyBegins (.text path) (entries.map .ok) := by
      show (liftM (Except.ok (entries.map .ok)) : Logged (List (Except Failure Value))) >>=
        anyBegins (.text path) = _
      exact Logged.liftM_ok_bind _ _
    rw [open_list, result_anyBegins]
    rfl

theorem reaches_textPaths (starts? : Option (List String)) (path : String) :
    reaches (textPaths starts?) path = .ok (covers starts? path) := by
  cases starts? with
  | none => rfl
  | some starts =>
    show anyPasses (textBegins path) (starts.map .text) = _
    induction starts with
    | nil => rfl
    | cons start starts ih =>
      rw [List.map_cons, anyPasses, textBegins, ok_bind]
      rw [covers] at ih ⊢
      rw [List.any_cons]
      cases Text.startsText start path with
      | true => rfl
      | false => exact ih

theorem result_inScope (part : Value) (starts? : Option (List String)) (path : String) :
    (inScope (.enforcing part starts?) (.text path)).result = .ok (covers starts? path) := by
  rw [← on_textPaths, result_inScope_on, reaches_textPaths]

/-! ## Chains -/

theorem result_subjectAccepted (part : Value) (leaf : Record) :
    (subjectAccepted part leaf).result =
      if part.isNull then .ok true
      else match leaf.subject with
        | .error _ => .ok false
        | .ok subject => Value.isIn part subject := by
  unfold subjectAccepted
  rw [Logged.result_ite]
  split
  · rfl
  · cases leaf.subject with
    | error f => rfl
    | ok subject =>
      simp only [Logged.result_bind, Logged.result_liftM]
      cases Value.isIn part subject with
      | error f => rfl
      | ok found => cases found <;> rfl

theorem accepts_records (c : Config) (leaf : Record) (rest : List Record) (now : Timestamp) :
    accepts c (.records (leaf :: rest)) now =
      match leaf.checkValidity now with
      | .error f =>
        rejectFor (if f.isValidity then .notValid f else .unreadableCertificate f)
      | .ok () => subjectAccepted c.certContains leaf := by
  rfl

theorem result_accepts_records (c : Config) (leaf : Record) (rest : List Record) (now : Timestamp) :
    (accepts c (.records (leaf :: rest)) now).result =
      match leaf.checkValidity now with
      | .error _ => .ok false
      | .ok () => (subjectAccepted c.certContains leaf).result := by
  rw [accepts_records]
  cases leaf.checkValidity now <;> rfl

theorem result_accepts_nil (c : Config) (now : Timestamp) :
    (accepts c (.records []) now).result = .ok false := rfl

theorem result_accepts_null (c : Config) (now : Timestamp) :
    (accepts c (.value .null) now).result = .ok false := rfl

/-! ## Verdicts -/

theorem result_verdict_off (path : Value) (chain : Chain) (now : Timestamp) :
    (verdict .off path chain now).result = .ok .forward := rfl

/-- On an enforced path a request passes just when its chain is accepted. -/
theorem result_verdict_of_inScope {c : Config} {path : Value} (on : c.isEnforcing = true)
    (inside : (inScope c path).result = .ok true) (chain : Chain) (now : Timestamp) :
    (verdict c path chain now).result =
      (fun accepted => if accepted then .forward else .reject) <$> (accepts c chain now).result := by
  unfold verdict
  rw [on]
  simp only [Bool.not_true, Bool.false_eq_true, if_false]
  rw [Logged.result_bind, inside, ok_bind]
  simp only [Bool.not_true, Bool.false_eq_true, if_false]
  rw [Logged.result_bind, Logged.result_tell, ok_bind, Logged.result_bind]
  cases (accepts c chain now).result with
  | error f => rfl
  | ok accepted => cases accepted <;> rfl

theorem result_verdict_on (part : Value) (paths? : Option (List Value)) (path : String)
    (chain : Chain) (now : Timestamp) :
    (verdict (.on part paths?) (.text path) chain now).result =
      reaches paths? path >>= fun inside =>
        if inside then
          (fun accepted => if accepted then .forward else .reject) <$>
            (accepts (.on part paths?) chain now).result
        else .ok .forward := by
  cases reached : reaches paths? path with
  | error f =>
    unfold verdict
    simp only [isEnforcing_on, Bool.not_true, Bool.false_eq_true, if_false]
    rw [Logged.result_bind, result_inScope_on, reached]
    rfl
  | ok inside =>
    cases inside with
    | true => exact result_verdict_of_inScope rfl (by rw [result_inScope_on, reached]) chain now
    | false =>
      unfold verdict
      simp only [isEnforcing_on, Bool.not_true, Bool.false_eq_true, if_false]
      rw [Logged.result_bind, result_inScope_on, reached]
      rfl

theorem result_verdict_enforcing (part : Value) (starts? : Option (List String)) (path : String)
    (chain : Chain) (now : Timestamp) :
    (verdict (.enforcing part starts?) (.text path) chain now).result =
      if covers starts? path then
        (fun accepted => if accepted then .forward else .reject) <$>
          (accepts (.enforcing part starts?) chain now).result
      else .ok .forward := by
  rw [← on_textPaths, result_verdict_on, reaches_textPaths, ok_bind]

/-! ## Guards -/

/-- What a guard answers in place of the page. -/
def Guard.reply : Verdict → Option TextAnswer
  | .forward => none
  | .reject => some refusal

theorem result_check (g : Guard) (now : Timestamp) (r : Request) :
    (g.check now r).result = r.chain? g.header >>= fun chain =>
      Guard.reply <$> (g.gate.evaluate (.text r.path) (.ofRecords? chain) now).result := by
  unfold Guard.check
  rw [Logged.result_bind, Logged.result_liftM]
  cases r.chain? g.header with
  | error f => rfl
  | ok chain =>
    rw [ok_bind, ok_bind, Logged.result_bind]
    cases (g.gate.evaluate (.text r.path) (.ofRecords? chain) now).result with
    | error f => rfl
    | ok v => cases v <;> rfl

end CertGate
