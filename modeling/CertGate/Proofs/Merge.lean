import CertGate.Proofs.Outcome

/-!
# Options laid over their defaults

* `Options.last?` : what a mapping says of a name, its last entry under that name;
* `lookup_merge` : merged options say what the later ones say, and what the base says otherwise;
* `Settings.Offers`, `options_of_mapping` : the options that settings with a mapping give, among
  them the context path, for which the mount path stands in.
-/

namespace CertGate
namespace Options

/-- The value of a name in a mapping. Of several entries under one name the last one holds. -/
def last? (options : Options) (name : String) : Option Value := options.reverse.lookup name

theorem last?_cons (e : String × Value) (rest : Options) (name : String) :
    last? (e :: rest) name = (last? rest name).or ([e].lookup name) := by
  rw [last?, last?, List.reverse_cons, List.lookup_append]

theorem lookup_set (name other : String) (v : Value) (options : Options) :
    (set name v options).lookup other = ([(name, v)].lookup other).or (options.lookup other) := by
  by_cases h : other = name
  · subst h
    rw [lookup_set_self, List.lookup_cons_self, Option.some_or]
  · rw [lookup_set_of_ne h, List.lookup_cons, beq_false_of_ne h]
    rfl

theorem lookup_merge (base later : Options) (name : String) :
    (base.merge later).lookup name = (later.last? name).or (base.lookup name) := by
  induction later generalizing base with
  | nil => rfl
  | cons e rest ih =>
    have step : base.merge (e :: rest) = (set e.1 e.2 base).merge rest := rfl
    rw [step, ih, lookup_set, last?_cons, Option.or_assoc]

theorem get_eq_ok_iff {options : Options} {name : String} {v : Value} :
    options.get name = .ok v ↔ options.lookup name = some v := by
  unfold get
  cases options.lookup name <;> simp

end Options

namespace Settings

/-- The context path that options are left with. Nothing counts as a context path that is not set,
and then the mount path stands in for it. -/
def contextOr (s : Settings) : Option Value → Value
  | none | some .null => s.mount
  | some v => v

/-- What options settings give, by the names of those that have a default. -/
structure Offers (s : Settings) (entries options : Options) : Prop where
  context : options.lookup "CONTEXT_PATH" = some (s.contextOr (entries.last? "CONTEXT_PATH"))
  other : ∀ name, name ≠ "CONTEXT_PATH" →
    options.lookup name = (entries.last? name).or (Options.defaults.lookup name)

theorem options_of_mapping {s : Settings} {entries : Options} (h : s.overrides = .mapping entries) :
    ∃ options, s.options = .ok options ∧ s.Offers entries options := by
  have kept : ∀ name v, name ≠ "CONTEXT_PATH" →
      (Options.set "CONTEXT_PATH" v (Options.defaults.merge entries)).lookup name =
        (entries.last? name).or (Options.defaults.lookup name) := fun name v ne => by
    rw [Options.lookup_set_of_ne ne, Options.lookup_merge]
  have merged : ∀ name, (Options.defaults.merge entries).lookup name =
      (entries.last? name).or (Options.defaults.lookup name) := Options.lookup_merge _ _
  have found := merged "CONTEXT_PATH"
  unfold options
  rw [h]
  cases last : entries.last? "CONTEXT_PATH" with
  | none =>
    rw [last] at found
    simp only [found]
    exact ⟨_, rfl, by rw [last]; exact Options.lookup_set_self _ _ _, fun name ne => kept name _ ne⟩
  | some v =>
    rw [last, Option.some_or] at found
    simp only [found]
    cases v
    case null =>
      exact ⟨_, rfl, by rw [last]; exact Options.lookup_set_self _ _ _,
        fun name ne => kept name _ ne⟩
    all_goals exact ⟨_, rfl, by rw [last]; exact found, fun name _ => merged name⟩

theorem overrides_of_mapping {s : Settings} {entries : Options}
    (h : s.auth? = some (.mapping entries)) : s.overrides = .mapping entries := by
  unfold overrides
  rw [h]
  cases entries <;> rfl

/-- Options come from a mapping, perhaps from an empty one. -/
theorem exists_overrides {s : Settings} {options : Options} (found : s.options = .ok options) :
    ∃ entries, s.overrides = .mapping entries ∧ s.Offers entries options := by
  cases written : s.overrides with
  | mapping entries =>
    obtain ⟨_, found', offered⟩ := options_of_mapping written
    cases found.symm.trans found'
    exact ⟨entries, rfl, offered⟩
  | _ =>
    unfold Settings.options at found
    rw [written] at found
    cases found

theorem exists_offers {s : Settings} {options : Options} (found : s.options = .ok options) :
    ∃ entries, s.Offers entries options :=
  (exists_overrides found).imp fun _ written => written.2

/-- An option that has a default is always there. -/
theorem Offers.exists_of_default {s : Settings} {entries options : Options} {default : Value}
    (offered : s.Offers entries options) (name : String) (ne : name ≠ "CONTEXT_PATH")
    (known : Options.defaults.lookup name = some default) :
    ∃ v, options.lookup name = some v := by
  rw [offered.other name ne, known]
  cases entries.last? name with
  | none => exact ⟨default, rfl⟩
  | some v => exact ⟨v, rfl⟩

end Settings
end CertGate
