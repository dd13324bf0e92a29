import CertGate.Proofs.Advised
import CertGate.Proofs.Tightening

/-!
# Paths in a text and in a list

The path option is a text with commas or a list of entries. Both forms are read in two places, where a
gate is started and where advice is given, and neither place can tell one form from the other.

* `Value.SamePaths` : path options that make no difference anywhere: for a start, for a decision, for
  advice, and for a guard that is built from settings;
* `samePaths_of_names` : so it is with options that name the same entries;
* `path_forms_agree` : a text and its pieces, a list of entries and its join.
-/

namespace CertGate

/-! ## Settings that differ in their paths -/

/-- The settings with options among which the paths have some value. -/
def Settings.withPaths (s : Settings) (before after : Options) (paths : Value) : Settings :=
  { s with auth? := some (.mapping (before ++ ("PATHS", paths) :: after)) }

/-- Two path options that make no difference, whatever the other options are. -/
structure Value.SamePaths (v w : Value) : Prop where
  configure : ∀ s provider part root,
    CertGate.configure s provider ⟨part, v, root⟩ = CertGate.configure s provider ⟨part, w, root⟩
  evaluate : ∀ s provider part root tally path chain now,
    (Gate.uninitialized.start s provider ⟨part, v, root⟩ tally).1.2.evaluate path chain now =
      (Gate.uninitialized.start s provider ⟨part, w, root⟩ tally).1.2.evaluate path chain now
  advice : ∀ (s : Settings) before after,
    CertGate.advice (s.withPaths before after v) = CertGate.advice (s.withPaths before after w)
  build : ∀ (s : Settings) before after,
    Guard.build (s.withPaths before after v) = Guard.build (s.withPaths before after w)

/-- Options that agree on all names but the paths, and on these too unless they have the two values. -/
structure Options.Apart (v w : Value) (options options' : Options) : Prop where
  other : ∀ name, name ≠ "PATHS" → options.lookup name = options'.lookup name
  paths : options.lookup "PATHS" = options'.lookup "PATHS" ∨
    (options.lookup "PATHS" = some v ∧ options'.lookup "PATHS" = some w)

section Settings
variable {s : Settings} {before after : Options} {v w : Value}

theorem last?_beside (before after : Options) (v : Value) (name : String) :
    (before ++ ("PATHS", v) :: after : Options).last? name =
      (after.last? name).or (([("PATHS", v)].lookup name).or (before.last? name)) := by
  have turned : (before ++ ("PATHS", v) :: after).reverse =
      after.reverse ++ ([("PATHS", v)] ++ before.reverse) := by
    simp
  rw [Options.last?, turned, List.lookup_append, List.lookup_append]
  rfl

theorem lookup_singleton_of_ne {name key : String} (ne : name ≠ key) (v : Value) :
    [(key, v)].lookup name = none := by
  rw [List.lookup_cons, beq_false_of_ne ne]
  rfl

theorem last?_beside_of_ne {name : String} (ne : name ≠ "PATHS") (v w : Value) :
    (before ++ ("PATHS", v) :: after : Options).last? name =
      (before ++ ("PATHS", w) :: after : Options).last? name := by
  rw [last?_beside, last?_beside, lookup_singleton_of_ne ne, lookup_singleton_of_ne ne]

theorem exists_options_apart (s : Settings) (before after : Options) (v w : Value) :
    ∃ options options', (s.withPaths before after v).options = .ok options ∧
      (s.withPaths before after w).options = .ok options' ∧ options.Apart v w options' := by
  have offers (u : Value) :=
    Settings.options_of_mapping (@Settings.overrides_of_mapping (s.withPaths before after u) _ rfl)
  obtain ⟨options, found, offered⟩ := offers v
  obtain ⟨options', found', offered'⟩ := offers w
  refine ⟨options, options', found, found', fun name ne => ?_, ?_⟩
  · by_cases context : name = "CONTEXT_PATH"
    · subst context
      rw [offered.context, offered'.context, last?_beside_of_ne ne v w]
      rfl
    · rw [offered.other name context, offered'.other name context, last?_beside_of_ne ne v w]
  · rw [offered.other _ (by decide), offered'.other _ (by decide), last?_beside, last?_beside]
    -- an entry that follows under the same name takes the place of both
    cases after.last? "PATHS" with
    | some u => exact .inl rfl
    | none => exact .inr ⟨rfl, rfl⟩

theorem flag_withPaths (s : Settings) (before after : Options) (v w : Value) :
    (s.withPaths before after v).flag = (s.withPaths before after w).flag := by
  have overrides (u : Value) :=
    @Settings.overrides_of_mapping (s.withPaths before after u) _ rfl
  have enforce (u : Value) : (before ++ ("PATHS", u) :: after).lookup "ENFORCE" =
      (before.lookup "ENFORCE").or (after.lookup "ENFORCE") := by
    rw [List.lookup_append, List.lookup_cons, beq_false_of_ne (by decide)]
  unfold Settings.flag
  rw [overrides v, overrides w]
  simp only [enforce]

/-! ## Providers -/

/-- A provider takes no notice of the paths. -/
theorem resolveFlag_withPaths (provider : Value) :
    resolveFlag (s.withPaths before after v) provider =
      resolveFlag (s.withPaths before after w) provider :=
  resolveFlag_of_same (flag_withPaths s before after v w) rfl provider

theorem configureFrom_withPaths (v w : Value) (options : Options) :
    configureFrom (s.withPaths before after v) options = configureFrom (s.withPaths before after w) options := by
  have started (provider : Value) (o : StartOptions) :
      configure (s.withPaths before after v) provider o = configure (s.withPaths before after w) provider o := by
    unfold configure
    rw [resolveFlag_withPaths]
  unfold configureFrom
  simp only [started]
  rfl

end Settings

/-! ## Options that name the same entries -/

section Names
variable {v w : Value} {entries : List String}

theorem Asking.liftM_ok_bind {α β : Type} (a : α) (next : α → Asking β) :
    ((liftM (Except.ok a : Except Failure α) : Asking α) >>= next) = next a := rfl

theorem pathEntries_of_names (named : v.Names (some entries)) :
    v.isNull = false ∧ pathEntries v = .ok (entries.map .text) := by
  cases named <;> exact ⟨rfl, rfl⟩

theorem entries?_of_names (named : v.Names (some entries)) : Advice.entries? v = some entries := by
  cases named with
  | text s => rfl
  | list entries => exact Advice.texts?_eq_some_iff.2 rfl
  | tuple entries => exact Advice.texts?_eq_some_iff.2 rfl

theorem enforcingConfig_of_names (named : v.Names (some entries)) (named' : w.Names (some entries))
    (part root : Value) : enforcingConfig ⟨part, v, root⟩ = enforcingConfig ⟨part, w, root⟩ := by
  obtain ⟨given, listed⟩ := pathEntries_of_names named
  obtain ⟨given', listed'⟩ := pathEntries_of_names named'
  unfold enforcingConfig
  simp only [given, given', enforcedPaths_of_entries listed, enforcedPaths_of_entries listed']

theorem configure_of_names (named : v.Names (some entries)) (named' : w.Names (some entries))
    (s : Settings) (provider part root : Value) :
    configure s provider ⟨part, v, root⟩ = configure s provider ⟨part, w, root⟩ := by
  unfold configure
  rw [enforcingConfig_of_names named named']

theorem configureFrom_of_names (named : v.Names (some entries)) (named' : w.Names (some entries))
    {options options' : Options} (apart : options.Apart v w options') (s : Settings) :
    configureFrom s options = configureFrom s options' := by
  have same (name : String) (ne : name ≠ "PATHS") : options.get name = options'.get name := by
    unfold Options.get
    rw [apart.other name ne]
  unfold configureFrom
  rw [same "ENFORCE_POLICY" (by decide), same "CERT_CONTAINS" (by decide),
    same "CONTEXT_PATH" (by decide)]
  rcases apart.paths with alike | ⟨written, written'⟩
  · have paths : options.get "PATHS" = options'.get "PATHS" := by
      unfold Options.get
      rw [alike]
    rw [paths]
  · rw [Options.get_eq_ok_iff.2 written, Options.get_eq_ok_iff.2 written']
    simp only [Asking.liftM_ok_bind, configure_of_names named named']

theorem onPaths_of_names (named : v.Names (some entries)) (named' : w.Names (some entries)) :
    Advice.onPaths v = Advice.onPaths w := by
  unfold Advice.onPaths
  rw [entries?_of_names named, entries?_of_names named']

theorem onOptions_of_names (named : v.Names (some entries)) (named' : w.Names (some entries))
    {options options' : Options} (apart : options.Apart v w options') (s : Settings) :
    Advice.onOptions s options = Advice.onOptions s options' := by
  have same (name : String) (ne : name ≠ "PATHS") : options.get name = options'.get name := by
    unfold Options.get
    rw [apart.other name ne]
  unfold Advice.onOptions
  rw [same "ENFORCE_POLICY" (by decide), same "CERT_HEADER" (by decide)]
  rcases apart.paths with alike | ⟨written, written'⟩
  · have paths : options.get "PATHS" = options'.get "PATHS" := by
      unfold Options.get
      rw [alike]
    rw [paths]
  · rw [Options.get_eq_ok_iff.2 written, Options.get_eq_ok_iff.2 written']
    simp only [ok_bind, onPaths_of_names named named']

theorem samePaths_of_names (named : v.Names (some entries)) (named' : w.Names (some entries)) :
    v.SamePaths w := by
  have configured := configure_of_names named named'
  refine ⟨configured, ?_, ?_, ?_⟩
  · intro s provider part root tally path chain now
    unfold Gate.start
    dsimp only
    rw [configured]
  · intro s before after
    obtain ⟨options, options', found, found', apart⟩ := exists_options_apart s before after v w
    rw [advice_of_options found, advice_of_options found']
    exact onOptions_of_names named named' apart (s.withPaths before after w)
  · intro s before after
    obtain ⟨options, options', found, found', apart⟩ := exists_options_apart s before after v w
    have header : options.get "CERT_HEADER" = options'.get "CERT_HEADER" := by
      unfold Options.get
      rw [apart.other "CERT_HEADER" (by decide)]
    unfold Guard.build
    rw [found, found', Asking.liftM_ok_bind, Asking.liftM_ok_bind, header, configureFrom_withPaths v w,
      configureFrom_of_names named named' apart]

end Names

/-! ## The two forms -/

/-- Entries without commas may be given in a list or joined with commas, and a text may be given or the
list of its pieces: the texts without commas that it is the join of, one more than it has commas. -/
theorem path_forms_agree :
    (∀ entries : List String, entries ≠ [] → (∀ entry ∈ entries, ',' ∉ entry.toList) →
      Value.SamePaths (.list (entries.map .text)) (.text (Text.joinTexts ',' entries))) ∧
    ∀ s : String, ∃ pieces : List String, Text.joinTexts ',' pieces = s ∧
      (∀ piece ∈ pieces, ',' ∉ piece.toList) ∧ pieces.length = s.toList.count ',' + 1 ∧
      Value.SamePaths (.text s) (.list (pieces.map .text)) := by
  constructor
  · intro entries ne free
    have joined : (Value.text (Text.joinTexts ',' entries)).Names (some entries) := by
      have named := Value.Names.text (Text.joinTexts ',' entries)
      rwa [Text.splitText_joinTexts ne free] at named
    exact samePaths_of_names (.list entries) joined
  · intro s
    refine ⟨Text.splitText ',' s, Text.joinTexts_splitText ',' s, ?_, Text.length_splitText ',' s, ?_⟩
    · intro piece mem
      exact Text.not_mem_of_mem_splitText mem
    · exact samePaths_of_names (.text s) (.list _)

/-- Blank and empty entries are no exception. -/
theorem path_forms_agree_reports :
    let entries := [" /reports", "", "admin "]
    entries ≠ [] ∧ (∀ entry ∈ entries, ',' ∉ entry.toList) ∧
      Value.SamePaths (.list (entries.map .text)) (.text " /reports,,admin ") := by
  intro entries
  have free : ∀ entry ∈ entries, ',' ∉ entry.toList := by decide
  have joined : Text.joinTexts ',' entries = " /reports,,admin " := by decide
  refine ⟨List.cons_ne_nil _ _, free, ?_⟩
  rw [← joined]
  exact path_forms_agree.1 entries (List.cons_ne_nil _ _) free

end CertGate
