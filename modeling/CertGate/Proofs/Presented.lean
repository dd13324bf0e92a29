import CertGate.Proofs.Start

/-!
# The chain that a request presents

* `Request.LeafText` : the text in which a request carries the certificate of its client, in the
  variable of the server or, without one there, escaped in the header of a proxy. There is at most
  one such text (`LeafText.unique`);
* `Request.ReadsTexts` : the variables that are read for it hold texts;
* `presented_of_bare`, `presented_of_served` : the variable of the server comes before the header;
* `presented_of_leafText`, `presented_of_no_leafText` : a chain is presented exactly when there is
  such a text, and that text is the data of its first record.
-/

namespace CertGate.Request

variable {vars : List (String × Value)} {header? : Option String} {t u : String}

/-- The text in which the variables of a request hold the certificate of its client, for the name
of the header that a proxy sets. -/
inductive LeafText (vars : List (String × Value)) (header? : Option String) : String → Prop
  | ofServer {t : String} (found : vars.lookup leafVariable = some (.text t)) (ne : t ≠ "") :
    LeafText vars header? t
  | ofProxy {name t : String}
    (bare : vars.lookup leafVariable = none ∨ vars.lookup leafVariable = some (.text ""))
    (named : header? = some name) (set : name ≠ "") (found : vars.lookup name = some (.text t))
    (ne : t ≠ "") : LeafText vars header? (Percent.decode t)

/-- The variables that are read for the certificate of a client hold texts. The header counts only
where the variable of the server leaves the question open. -/
structure ReadsTexts (vars : List (String × Value)) (header? : Option String) : Prop where
  leaf : ∀ v, vars.lookup leafVariable = some v → ∃ t, v = .text t
  header : ∀ name v, given? vars leafVariable = none → header? = some name → name ≠ "" →
    vars.lookup name = some v → ∃ t, v = .text t

theorem given?_eq_none_of_bare
    (h : vars.lookup leafVariable = none ∨ vars.lookup leafVariable = some (.text "")) :
    given? vars leafVariable = none := by
  unfold given?
  rcases h with h | h <;> rw [h] <;> rfl

theorem given?_of_text {name : String} (found : vars.lookup name = some (.text t)) (ne : t ≠ "") :
    given? vars name = some (.text t) := by
  unfold given?
  rw [found]
  simp [Value.isGiven, ne]

theorem LeafText.unique (h : LeafText vars header? t) (h' : LeafText vars header? u) : t = u := by
  cases h with
  | ofServer found ne =>
    cases h' with
    | ofServer found' _ =>
      rw [found] at found'
      exact Value.text.inj (Option.some.inj found')
    | ofProxy bare _ _ _ _ =>
      have given := given?_of_text found ne
      rw [given?_eq_none_of_bare bare] at given
      cases given
  | ofProxy bare named set found ne =>
    cases h' with
    | ofServer found' ne' =>
      have given := given?_of_text found' ne'
      rw [given?_eq_none_of_bare bare] at given
      cases given
    | ofProxy _ named' _ found' _ =>
      rw [named] at named'
      obtain rfl := Option.some.inj named'
      rw [found] at found'
      rw [Value.text.inj (Option.some.inj found')]

/-- Without the server's own variable the chain is that of the header. -/
theorem presented_of_bare (bare : given? vars leafVariable = none) (header : Value) :
    presented vars header = forwarded vars header := by
  unfold presented
  rw [bare]

/-- With it the header is not read. -/
theorem presented_of_served {leaf : Value} (served : given? vars leafVariable = some leaf)
    (header : Value) :
    presented vars header = .ok (some (recordOf leaf :: numbered vars vars.length 0)) := by
  unfold presented
  rw [served]

/-- The chain begins with the text that a request carries. -/
theorem presented_of_leafText (h : LeafText vars header? t) :
    ∃ rest, presented vars (.ofText? header?) = .ok (some (recordOf (.text t) :: rest)) := by
  cases h with
  | ofServer found ne =>
    refine ⟨numbered vars vars.length 0, ?_⟩
    unfold presented
    rw [given?_of_text found ne]
  | @ofProxy name t bare named set found ne =>
    refine ⟨[], ?_⟩
    unfold presented forwarded
    rw [given?_eq_none_of_bare bare, named]
    simp [Value.ofText?, Value.isGiven, set, ne, Value.get?, Value.unhashable?, found, unescape,
      recordOf, CertificateData.ofValue]

/-- Without such a text there is no chain. -/
theorem presented_of_no_leafText (reads : ReadsTexts vars header?)
    (no_text : ∀ t, ¬ LeafText vars header? t) : presented vars (.ofText? header?) = .ok none := by
  have bare : vars.lookup leafVariable = none ∨ vars.lookup leafVariable = some (.text "") := by
    cases found : vars.lookup leafVariable with
    | none => exact .inl rfl
    | some v =>
      obtain ⟨t, rfl⟩ := reads.leaf v found
      by_cases ne : t = ""
      · exact .inr (by rw [ne])
      · exact absurd (.ofServer found ne) (no_text t)
  have open_question := given?_eq_none_of_bare bare
  unfold presented forwarded
  rw [open_question]
  cases header? with
  | none => rfl
  | some name =>
    by_cases set : name = ""
    · subst set
      rfl
    · cases found : vars.lookup name with
      | none => simp [Value.ofText?, Value.isGiven, set, Value.get?, Value.unhashable?, found]
      | some v =>
        obtain ⟨t, rfl⟩ := reads.header name v open_question rfl set found
        by_cases ne : t = ""
        · subst ne
          simp [Value.ofText?, Value.isGiven, set, Value.get?, Value.unhashable?, found]
        · exact absurd (.ofProxy bare rfl set found ne) (no_text _)

/-- A request to which no chain is attached has the chain in its variables. -/
theorem chain?_of_unattached {r : Request} (h : r.attached = .value .null) (header : Value) :
    r.chain? header = presented r.vars header := by
  unfold chain?
  rw [h]
  rfl

end CertGate.Request
