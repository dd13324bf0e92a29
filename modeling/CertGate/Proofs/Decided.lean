import CertGate.Proofs.Verdict

/-!
# Which requests are decided

A verdict catches whatever goes wrong while a record is read, but neither the test whether the path
is enforced nor the one whether the subject contains what is asked for. `Searchable` says of which
values the second can be made at all, and `Stuck` which decisions come down to a test that cannot be
made.

* `isIn_isOk_iff` : the test has a result exactly for the searchable pairs of values;
* `start_eq_ready_iff` : when a gate becomes ready, and with which configuration;
* `evaluate_isOk_iff` : a gate that has become ready decides every path with every list of records,
  the stuck ones apart.
-/

namespace CertGate

/-! ## Tests that can be made -/

/-- What a value has to be to be looked for, an object having a say of its own. -/
def Value.TellsIf (fit : Value → Prop) : Value → Prop
  | .object o => ∃ found, o.isWithin = .ok found
  | v => fit v

/-- What may be a key. -/
def Value.IsHashable (v : Value) : Prop := v.unhashable? = none

/-- Some items with which a value can be compared, up to the first that is equal to it. -/
def Value.IsComparable (v : Value) (items : List Value) : Prop :=
  ∀ before w after, items = before ++ w :: after → (∀ u ∈ before, v.same u = .ok false) →
    ∃ equal, v.same w = .ok equal

/-- What can be looked for in a value: a text in a text, octets or the number of one in octets, what may
be a key in a mapping or a set, a set in a set, and in a list or a tuple what can be compared with its
items. -/
def Searchable (needle : Value) : Value → Prop
  | .text _ => ∃ part, needle = .text part
  | .octets _ => needle.TellsIf fun v =>
    (∃ part, v = .octets part) ∨ (∃ b, v = .bool b) ∨ ∃ n : Int, v = .int n ∧ 0 ≤ n ∧ n < 256
  | .list items | .tuple items => needle.TellsIf (·.IsComparable items)
  | .set _ => needle.TellsIf fun v => v.IsHashable ∨ ∃ items, v = .set items
  | .mapping _ => needle.TellsIf Value.IsHashable
  | .object o => ∃ found, o.contains needle.show = .ok found
  | _ => False

section Search
variable {needle v : Value} {items : List Value} {entries : List (String × Value)} {bs : List UInt8}

theorem isIn_octets_isOk_iff :
    (∃ found, Value.isIn needle (.octets bs) = .ok found) ↔ Searchable needle (.octets bs) := by
  cases needle with
  | object o => exact result_isOk_iff
  | octets part => exact iff_of_true ⟨_, rfl⟩ (.inl ⟨part, rfl⟩)
  | bool b =>
    refine iff_of_true ?_ (.inr (.inl ⟨b, rfl⟩))
    cases b <;> exact ⟨_, rfl⟩
  | int n =>
    show (∃ found, Value.octetIsIn n bs = .ok found) ↔ _
    unfold Value.octetIsIn
    by_cases fit : 0 ≤ n ∧ n < 256
    · rw [if_pos fit]
      exact iff_of_true ⟨_, rfl⟩ (.inr (.inr ⟨n, rfl, fit⟩))
    · rw [if_neg fit]
      refine iff_of_false nofun ?_
      rintro (⟨_, ⟨⟩⟩ | ⟨_, ⟨⟩⟩ | ⟨_, ⟨⟩, fit'⟩)
      exact fit fit'
  | _ =>
    refine iff_of_false nofun ?_
    rintro (⟨_, ⟨⟩⟩ | ⟨_, ⟨⟩⟩ | ⟨_, ⟨⟩, -⟩)

theorem isInSet_isOk_iff :
    (∃ found, needle.isInSet items = .ok found) ↔ Searchable needle (.set items) := by
  cases needle with
  | object o => exact result_isOk_iff
  | set vs => exact iff_of_true ⟨_, rfl⟩ (.inr ⟨vs, rfl⟩)
  | tuple vs =>
    show _ ↔ (Value.tuple vs).unhashable? = none ∨ _
    unfold Value.isInSet
    cases h : (Value.tuple vs).unhashable? <;> simp
  | list _ | mapping _ =>
    refine iff_of_false nofun ?_
    rintro (⟨⟨⟩⟩ | ⟨_, ⟨⟩⟩)
  | _ => exact iff_of_true ⟨_, rfl⟩ (.inl rfl)

theorem isIn_mapping_isOk_iff :
    (∃ found, Value.isIn needle (.mapping entries) = .ok found) ↔
      Searchable needle (.mapping entries) := by
  cases needle with
  | object o => exact result_isOk_iff
  | tuple vs =>
    show (∃ found, ((Value.tuple vs).get? entries >>= fun v? => .ok v?.isSome) = .ok found) ↔
      (Value.tuple vs).unhashable? = none
    unfold Value.get?
    cases h : (Value.tuple vs).unhashable? <;> simp
  | list _ | set _ | mapping _ => exact iff_of_false nofun nofun
  | _ => exact iff_of_true ⟨_, rfl⟩ rfl

theorem isIn_isOk_iff : (∃ found, Value.isIn needle v = .ok found) ↔ Searchable needle v := by
  cases v with
  | text s =>
    cases needle with
    | text part => exact iff_of_true ⟨_, rfl⟩ ⟨part, rfl⟩
    | _ => exact iff_of_false nofun nofun
  | octets bs => exact isIn_octets_isOk_iff
  | list items | tuple items =>
    cases needle with
    | object o => exact result_isOk_iff
    | _ => exact anyPasses_isOk_iff
  | set items => exact isInSet_isOk_iff
  | mapping entries => exact isIn_mapping_isOk_iff
  | object o => exact result_isOk_iff
  | _ => exact iff_of_false nofun nofun

end Search

/-! ## Decisions that are made -/

/-- A decision with enforcement on that comes down to a test which cannot be made. Either an entry is
met that can be the beginning of no text, so that it cannot be told whether the path is enforced; or the
path is enforced, and the first record is valid and has a subject in which what is asked for cannot be
looked for. -/
inductive Stuck (c : Config) (path : String) (now : Timestamp) (chain : Chain) : Prop
  | scope {entries : List Value} {v : Value} (on : c.isEnforcing = true)
    (limited : c.enforcedPaths = .list entries) (met : Meets path entries v)
    (unfit : ¬ Opens path v ∧ ¬ Misses path v)
  | subject {leaf : Record} {rest : List Record} {subject : Value} (on : c.isEnforcing = true)
    (inside : ∀ entries, c.enforcedPaths = .list entries → ∃ v, Meets path entries v ∧ Opens path v)
    (first : chain = .records (leaf :: rest)) (valid : leaf.checkValidity now = .ok ())
    (asked : c.certContains.isNull = false) (shown : leaf.subject = .ok subject)
    (unfit : ¬ Searchable c.certContains subject)

theorem subjectAccepted_isOk_iff {part : Value} {leaf : Record} :
    (∃ accepted, (subjectAccepted part leaf).result = .ok accepted) ↔
      ∀ subject, part.isNull = false → leaf.subject = .ok subject → Searchable part subject := by
  rw [result_subjectAccepted]
  cases asked : part.isNull with
  | true => simp
  | false =>
    cases shown : leaf.subject with
    | error f => simp
    | ok subject => simpa using isIn_isOk_iff

theorem accepts_isOk_iff {c : Config} {leaf : Record} {rest : List Record} {now : Timestamp} :
    (∃ accepted, (accepts c (.records (leaf :: rest)) now).result = .ok accepted) ↔
      ∀ subject, leaf.checkValidity now = .ok () → c.certContains.isNull = false →
        leaf.subject = .ok subject → Searchable c.certContains subject := by
  rw [result_accepts_records]
  cases leaf.checkValidity now with
  | error f => simp
  | ok u => simpa using subjectAccepted_isOk_iff

/-- A chain as a server has it, nothing or a list of records. -/
inductive Chain.Listed : Chain → Prop
  | none : Listed (.value .null)
  | records (rs : List Record) : Listed (.records rs)

section Verdict
variable {part : Value} {paths? : Option (List Value)} {entries : List Value} {path : String}
  {chain : Chain} {now : Timestamp}

theorem enforcedPaths_on_eq_list_iff :
    (Config.on part paths?).enforcedPaths = .list entries ↔ paths? = some entries := by
  cases paths? with
  | none => exact iff_of_false nofun nofun
  | some vs => simp [Config.on, Value.ofItems?]

theorem reaches_eq_true_iff :
    reaches paths? path = .ok true ↔ ∀ entries, (Config.on part paths?).enforcedPaths = .list entries →
      ∃ v, Meets path entries v ∧ Opens path v := by
  simp only [enforcedPaths_on_eq_list_iff]
  cases paths? with
  | none => exact iff_of_true rfl nofun
  | some entries =>
    rw [reaches_eq_iff (by simp)]
    simp [textBegins_eq_true_iff]

/-- When it can be told whether a path is enforced, no entry that is met keeps that from being told. -/
theorem not_unfit_of_reaches {inside : Bool} (told : reaches paths? path = .ok inside)
    (limited : (Config.on part paths?).enforcedPaths = .list entries) {v : Value}
    (met : Meets path entries v) : ¬ (¬ Opens path v ∧ ¬ Misses path v) := by
  obtain rfl := enforcedPaths_on_eq_list_iff.1 limited
  rintro ⟨opens, misses⟩
  rcases reaches_isOk_iff.1 ⟨inside, told⟩ v met with h | h
  · exact opens h
  · exact misses h

theorem accepts_isOk_iff_not_stuck (listed : chain.Listed) (inside : reaches paths? path = .ok true) :
    (∃ accepted, (accepts (.on part paths?) chain now).result = .ok accepted) ↔
      ¬ Stuck (.on part paths?) path now chain := by
  cases listed with
  | none =>
    refine iff_of_true ⟨false, result_accepts_null _ now⟩ ?_
    rintro (⟨-, limited, met, unfit⟩ | ⟨-, -, ⟨⟩⟩)
    exact not_unfit_of_reaches inside limited met unfit
  | records rs =>
    cases rs with
    | nil =>
      refine iff_of_true ⟨false, result_accepts_nil _ now⟩ ?_
      rintro (⟨-, limited, met, unfit⟩ | ⟨-, -, ⟨⟩⟩)
      exact not_unfit_of_reaches inside limited met unfit
    | cons leaf rest =>
      rw [accepts_isOk_iff]
      constructor
      · rintro fit (⟨-, limited, met, unfit⟩ | ⟨-, -, ⟨⟩, valid, asked, shown, unfit⟩)
        · exact not_unfit_of_reaches inside limited met unfit
        · exact unfit (fit _ valid asked shown)
      · intro free subject valid asked shown
        refine Classical.byContradiction fun unfit => ?_
        exact free (.subject rfl (reaches_eq_true_iff.1 inside) rfl valid asked shown unfit)

theorem verdict_isOk_iff (listed : chain.Listed) :
    (∃ v, (verdict (.on part paths?) (.text path) chain now).result = .ok v) ↔
      ¬ Stuck (.on part paths?) path now chain := by
  rw [result_verdict_on]
  cases reached : reaches paths? path with
  | error f =>
    refine iff_of_false nofun fun free => ?_
    cases paths? with
    | none => cases reached
    | some entries =>
      obtain ⟨v, met, fails⟩ := (reaches_eq_iff (r := .error f) nofun).1 reached
      refine free (.scope rfl rfl met ⟨fun opens => ?_, fun misses => ?_⟩)
      · cases fails.symm.trans (textBegins_eq_true_iff.2 opens)
      · cases fails.symm.trans (textBegins_eq_false_iff.2 misses)
  | ok inside =>
    cases inside with
    | true =>
      rw [ok_bind, if_pos rfl, map_isOk_iff]
      exact accepts_isOk_iff_not_stuck listed reached
    | false =>
      refine iff_of_true ⟨.forward, rfl⟩ ?_
      rintro (⟨-, limited, met, unfit⟩ | ⟨-, inside, -⟩)
      · exact not_unfit_of_reaches reached limited met unfit
      · cases reached.symm.trans (reaches_eq_true_iff.2 inside)

end Verdict

/-! ## Gates that have become ready -/

section Started
variable {s : Settings} {provider : Value} {o : StartOptions} {tally : Tally} {c : Config}

theorem start_eq_ready_iff :
    (Gate.uninitialized.start s provider o tally).1.2 = .ready c ↔
      (configure s provider o).answer tally = .ok c := by
  unfold Gate.start Asking.answer
  rcases configure s provider o tally with ⟨⟨events, c' | f⟩, after⟩ <;>
    simp [Gate.uninitialized, Gate.ready]

/-- A gate that has become ready decides every path with every list of records and with none, the
chains apart whose decision comes down to a test that cannot be made. -/
theorem evaluate_isOk_iff (ready : (Gate.uninitialized.start s provider o tally).1.2 = .ready c)
    (path : String) {chain : Chain} (listed : chain.Listed) (now : Timestamp) :
    (∃ v, ((Gate.ready c).evaluate (.text path) chain now).result = .ok v) ↔
      ¬ Stuck c path now chain := by
  rcases configure_eq_ok_iff.1 (start_eq_ready_iff.1 ready) with ⟨-, rfl⟩ | ⟨-, paths?, -, rfl⟩
  · refine iff_of_true ⟨.forward, result_verdict_off _ _ _⟩ ?_
    rintro (⟨⟨⟩⟩ | ⟨⟨⟩⟩)
  · exact verdict_isOk_iff listed

end Started

/-- Options that ask for a subject on all paths. -/
def subjectOptions : StartOptions := ⟨.text "OU=Eng", .null, .text ""⟩

/-- A valid record with some subject. -/
def recordNamed (subject : Value) : Record :=
  .attached ⟨.gives subject, .absent, .absent, .absent, .absent, .passes⟩

theorem evaluate_named_isOk :
    (Gate.uninitialized.start bareSettings alwaysPolicy subjectOptions []).1.2 =
        .ready (.enforcing (.text "OU=Eng") none) ∧
      ∃ v, ((Gate.ready (.enforcing (.text "OU=Eng") none)).evaluate (.text "/")
        (.records [recordNamed (.text "CN=a")])
          (.universal ⟨⟨2024, 1, 1, by decide⟩, 0, 0⟩)).result = .ok v := by
  have ready : (Gate.uninitialized.start bareSettings alwaysPolicy subjectOptions []).1.2 =
      .ready (.enforcing (.text "OU=Eng") none) := by
    rfl
  refine ⟨ready, (evaluate_isOk_iff ready "/" (.records [recordNamed (.text "CN=a")]) _).2 ?_⟩
  rintro (⟨-, ⟨⟩⟩ | ⟨-, -, ⟨⟩, -, -, shown, unfit⟩)
  cases shown
  exact unfit ⟨_, rfl⟩

/-- A subject that is nothing makes the gate fail, and so do octets for the paths. -/
theorem evaluate_unnamed_fails :
    ((Gate.uninitialized.start bareSettings alwaysPolicy subjectOptions []).1.2 =
        .ready (.enforcing (.text "OU=Eng") none) ∧
      ∀ now, ((Gate.ready (.enforcing (.text "OU=Eng") none)).evaluate (.text "/")
        (.records [recordNamed .null]) now).result = .error (.notContainer "NoneType")) ∧
    ((Gate.uninitialized.start bareSettings alwaysPolicy
        ⟨.null, .list [.octets [47, 97]], .octets [47, 98]⟩ []).1.2 =
        .ready (.on .null (some [.octets [47, 98, 47, 97]])) ∧
      ∀ now, ((Gate.ready (.on .null (some [.octets [47, 98, 47, 97]]))).evaluate (.text "/")
        (.value .null) now).result = .error (.badBeginning "bytes")) :=
  ⟨⟨rfl, fun _ => rfl⟩, rfl, fun _ => rfl⟩

end CertGate
