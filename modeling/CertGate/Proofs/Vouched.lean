import CertGate.Proofs.Decided

/-!
# What a request that passes has shown

On a path that is enforced a gate lets only those requests pass whose chain is `Vouched`: the check of
its first record has passed, and the subject of that record holds the text that is asked for.

* `Value.Holds` : a text holds its parts. A record may give any value for its subject, and there a
  list, a tuple or a set holds its items, a mapping its keys, and any other thing what it says
  (`isIn_text_eq_true_iff`);
* `accepts_eq_true_iff` : the chains that are accepted are those that are vouched for;
* `evaluate_eq_forward_iff` : so are the requests that pass. Neither a chain without records nor
  anything else in its place is vouched for.
-/

namespace CertGate

/-! ## Subjects -/

/-- The values that are equal to a text: the text itself, and what says so of itself. -/
inductive Value.Equals (part : String) : Value → Prop
  | self : Equals part (.text part)
  | object {o : Object} (agrees : o.equals (Text.quoted part) = .ok true) : Equals part (.object o)

/-- The values that hold a text, as far as the test for it goes. -/
inductive Value.Holds (part : String) : Value → Prop
  | text (before after : String) : Holds part (.text (before ++ part ++ after))
  | item {before after : List Value} {v : Value}
    (others : ∀ w ∈ before, Value.same (.text part) w = .ok false) (equal : v.Equals part) :
    Holds part (.list (before ++ v :: after))
  | place {before after : List Value} {v : Value}
    (others : ∀ w ∈ before, Value.same (.text part) w = .ok false) (equal : v.Equals part) :
    Holds part (.tuple (before ++ v :: after))
  | member {items : List Value} {v : Value} (mem : v ∈ items) (equal : v.Equals part) :
    Holds part (.set items)
  | key {entries : List (String × Value)} {v : Value} (mem : (part, v) ∈ entries) :
    Holds part (.mapping entries)
  | object {o : Object} (contained : o.contains (Text.quoted part) = .ok true) :
    Holds part (.object o)

section Holds
variable {part : String} {v : Value} {items : List Value}

theorem same_text_eq_true_iff : Value.same (.text part) v = .ok true ↔ v.Equals part := by
  constructor
  · intro equal
    cases v with
    | text s =>
      obtain rfl : part = s := beq_iff_eq.1 (Except.ok.inj equal)
      exact .self
    | object o => exact .object (result_eq_ok_iff.1 equal)
    | _ => simp [Value.same, Value.sameLeaf, Value.number?] at equal
  · rintro (⟨⟩ | ⟨agrees⟩)
    · exact congrArg Except.ok (beq_self_eq_true part)
    · exact result_eq_ok_iff.2 agrees

theorem anyPasses_same_text_iff : anyPasses (Value.same (.text part)) items = .ok true ↔
    ∃ before v after, items = before ++ v :: after ∧
      (∀ w ∈ before, Value.same (.text part) w = .ok false) ∧ v.Equals part := by
  rw [anyPasses_eq_iff (by simp)]
  simp only [same_text_eq_true_iff]

theorem any_same_text_iff :
    (items.any fun v => Value.isAgreed (Value.same (.text part) v)) = true ↔
      ∃ v ∈ items, v.Equals part := by
  have agreed (v : Value) :
      Value.isAgreed (Value.same (.text part) v) = true ↔ v.Equals part := by
    rw [← same_text_eq_true_iff]
    cases Value.same (.text part) v with
    | error f => exact iff_of_false nofun nofun
    | ok equal => exact (Except.ok.injEq _ _).to_iff.symm
  rw [List.any_eq_true]
  simp only [agreed]

theorem isSome_lookup_iff {entries : List (String × Value)} :
    (entries.lookup part).isSome = true ↔ ∃ v, (part, v) ∈ entries := by
  rw [List.lookup_isSome_iff]
  simp

theorem isIn_text_eq_true_iff : Value.isIn (.text part) v = .ok true ↔ v.Holds part := by
  constructor
  · intro test
    cases v with
    | text s =>
      obtain ⟨before, after, rfl⟩ := Value.isIn_text.1 test
      exact .text before after
    | list items =>
      obtain ⟨before, v, after, rfl, others, equal⟩ := anyPasses_same_text_iff.1 test
      exact .item others equal
    | tuple items =>
      obtain ⟨before, v, after, rfl, others, equal⟩ := anyPasses_same_text_iff.1 test
      exact .place others equal
    | set items =>
      obtain ⟨v, mem, equal⟩ := any_same_text_iff.1 (Except.ok.inj test)
      exact .member mem equal
    | mapping entries =>
      obtain ⟨v, mem⟩ := isSome_lookup_iff.1 (Except.ok.inj test)
      exact .key mem
    | object o => exact .object (result_eq_ok_iff.1 test)
    | _ => cases test
  · intro holds
    cases holds with
    | text before after => exact Value.isIn_text.2 ⟨before, after, rfl⟩
    | item others equal | place others equal =>
      exact anyPasses_same_text_iff.2 ⟨_, _, _, rfl, others, equal⟩
    | member mem equal => exact congrArg Except.ok (any_same_text_iff.2 ⟨_, mem, equal⟩)
    | key mem => exact congrArg Except.ok (isSome_lookup_iff.2 ⟨_, mem⟩)
    | object contained => exact result_eq_ok_iff.2 contained

end Holds

/-! ## Chains -/

/-- A chain whose first record has passed its own check and names what is asked for. -/
inductive Chain.Vouched (part? : Option String) (now : Timestamp) : Chain → Prop
  | intro {leaf : Record} {rest : List Record} (valid : leaf.checkValidity now = .ok ())
    (named : ∀ part, part? = some part → ∃ subject, leaf.subject = .ok subject ∧ subject.Holds part) :
    Vouched part? now (.records (leaf :: rest))

theorem subjectAccepted_eq_true_iff {part? : Option String} {leaf : Record} :
    (subjectAccepted (.ofText? part?) leaf).result = .ok true ↔
      ∀ part, part? = some part → ∃ subject, leaf.subject = .ok subject ∧ subject.Holds part := by
  rw [result_subjectAccepted]
  cases part? with
  | none => simp [Value.ofText?, Value.isNull]
  | some part =>
    have asked : (Value.ofText? (some part)).isNull = false := rfl
    rw [asked, if_neg (by decide)]
    cases leaf.subject with
    | error f => simp
    | ok subject => simpa [Value.ofText?] using isIn_text_eq_true_iff

theorem plain_of_leaf_value {v : Value} {leaf : Record}
    (h : (Chain.value v).leaf = .ok (some leaf)) : ∃ w, leaf = .plain w := by
  unfold Chain.leaf at h
  dsimp only at h
  split at h
  · obtain ⟨w?, -, found⟩ := bind_eq_ok_iff.1 h
    obtain ⟨w, -, rfl⟩ := Option.map_eq_some_iff.1 (Except.ok.inj found)
    exact ⟨w, rfl⟩
  · cases h

/-- What stands in the place of records is not accepted, for it has no check to pass. -/
theorem accepts_value_ne_true (c : Config) (v : Value) (now : Timestamp) :
    (accepts c (.value v) now).result ≠ .ok true := by
  unfold accepts
  rw [Logged.result_bind, Logged.result_liftM]
  cases h : (Chain.value v).leaf with
  | error f => nofun
  | ok leaf? =>
    cases leaf? with
    | none => nofun
    | some leaf =>
      obtain ⟨w, rfl⟩ := plain_of_leaf_value h
      nofun

theorem accepts_eq_true_iff {c : Config} {part? : Option String}
    (asked : c.certContains = .ofText? part?) {chain : Chain} {now : Timestamp} :
    (accepts c chain now).result = .ok true ↔ chain.Vouched part? now := by
  cases chain with
  | value v => exact iff_of_false (accepts_value_ne_true c v now) nofun
  | passing steps => exact iff_of_false nofun nofun
  | records rs =>
    cases rs with
    | nil => exact iff_of_false nofun nofun
    | cons leaf rest =>
      rw [result_accepts_records, asked]
      constructor
      · intro yes
        cases valid : leaf.checkValidity now with
        | error f => rw [valid] at yes; cases yes
        | ok u =>
          rw [valid] at yes
          exact .intro valid (subjectAccepted_eq_true_iff.1 yes)
      · rintro ⟨valid, named⟩
        rw [valid]
        exact subjectAccepted_eq_true_iff.2 named

/-! ## Requests -/

/-- On an enforced path a gate lets exactly those requests pass that are vouched for. -/
theorem evaluate_eq_forward_iff {c : Config} {part? : Option String} {path : String}
    (on : c.isEnforcing = true) (asked : c.certContains = .ofText? part?)
    (inside : (inScope c (.text path)).result = .ok true) (chain : Chain) (now : Timestamp) :
    ((Gate.ready c).evaluate (.text path) chain now).result = .ok .forward ↔
      chain.Vouched part? now := by
  show (verdict c (.text path) chain now).result = .ok .forward ↔ _
  rw [result_verdict_of_inScope on inside, ← accepts_eq_true_iff asked]
  cases (accepts c chain now).result with
  | error f => simp
  | ok accepted => cases accepted <;> simp

theorem evaluate_named_forwards :
    (Config.enforcing (.text "OU=Eng") none).isEnforcing = true ∧
      (inScope (.enforcing (.text "OU=Eng") none) (.text "/")).result = .ok true ∧
      ((Gate.ready (.enforcing (.text "OU=Eng") none)).evaluate (.text "/")
        (.records [recordNamed (.text "CN=a,OU=Eng")])
          (.universal ⟨⟨2024, 1, 1, by decide⟩, 0, 0⟩)).result = .ok .forward := by
  refine ⟨rfl, rfl, ?_⟩
  refine (@evaluate_eq_forward_iff _ (some "OU=Eng") "/" rfl rfl rfl _ _).2 (.intro rfl ?_)
  rintro _ ⟨⟩
  exact ⟨_, rfl, .text "CN=a," ""⟩

/-- A subject that is a list with the text among its items is as good as one with the text in it. -/
theorem evaluate_listed_forwards :
    (Gate.uninitialized.start bareSettings alwaysPolicy subjectOptions []).1.2 =
        .ready (.enforcing (.text "OU=Eng") none) ∧
      ((Gate.ready (.enforcing (.text "OU=Eng") none)).evaluate (.text "/")
        (.records [recordNamed (.list [.text "OU=Eng"])])
          (.universal ⟨⟨2024, 1, 1, by decide⟩, 0, 0⟩)).result = .ok .forward ∧
      ¬ ∃ s, (recordNamed (.list [.text "OU=Eng"])).subject = .ok (.text s) := by
  refine ⟨rfl, rfl, ?_⟩
  rintro ⟨s, shown⟩
  cases shown

end CertGate
