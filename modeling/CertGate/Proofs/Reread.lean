import CertGate.Proofs.Start

/-!
# Settings that are read once more

Settings may hold paths that can be gone through once only. When a guard has been built from them, these
paths are used up, and whoever reads the settings afterwards finds what is left.

* `Settings.changePaths` : settings with other paths. All else in them is read as before
  (`options_changePaths`, `policyFlag_changePaths`);
* `Settings.afterBuild` : settings as the building of a guard leaves them;
* `Value.Repeats` : paths that come to the same when they are read once more. What lasts does
  (`repeats_of_isLasting`), what does not last only if there was nothing in it (`repeats_iff_of_once`);
* `Settings.Rereads`, `answer_configureFrom_afterBuild` : what is read the second time.
-/

namespace CertGate

/-! ## Settings with other paths -/

/-- Options with other paths. -/
def Options.changePaths (change : Value → Value) (options : Options) : Options :=
  options.map fun e => if e.1 = "PATHS" then (e.1, change e.2) else e

/-- Settings with other paths. -/
def Settings.changePaths (s : Settings) (change : Value → Value) : Settings :=
  { s with auth? := s.auth?.map fun
    | .mapping entries => .mapping (Options.changePaths change entries)
    | v => v }

/-- Options that agree on all names but the paths, and have other paths. -/
structure Options.Changed (change : Value → Value) (options options' : Options) : Prop where
  other : ∀ name, name ≠ "PATHS" → options'.lookup name = options.lookup name
  paths : options'.lookup "PATHS" = (options.lookup "PATHS").map change

section Change
variable {s : Settings} {options options' entries : Options} {change : Value → Value} {name : String}

theorem changed_changePaths (change : Value → Value) (entries : Options) :
    entries.Changed change (entries.changePaths change) := by
  constructor
  · intro name ne
    induction entries with
    | nil => rfl
    | cons e entries ih =>
      rw [Options.changePaths, List.map_cons]
      by_cases here : e.1 = "PATHS"
      · rw [if_pos here, List.lookup_cons, List.lookup_cons, here, beq_false_of_ne ne]
        exact ih
      · rw [if_neg here, List.lookup_cons, List.lookup_cons]
        cases name == e.1 with
        | true => rfl
        | false => exact ih
  · induction entries with
    | nil => rfl
    | cons e entries ih =>
      rw [Options.changePaths, List.map_cons]
      by_cases here : e.1 = "PATHS"
      · rw [if_pos here, List.lookup_cons, List.lookup_cons, here]
        rfl
      · rw [if_neg here, List.lookup_cons, List.lookup_cons, beq_false_of_ne (Ne.symm here)]
        exact ih

theorem last?_changePaths (change : Value → Value) (entries : Options) (name : String) :
    (entries.changePaths change).last? name =
      List.lookup name (Options.changePaths change entries.reverse) := by
  rw [Options.last?, Options.changePaths, ← List.map_reverse]
  rfl

theorem overrides_changePaths (written : s.overrides = .mapping entries) :
    (s.changePaths change).overrides = .mapping (entries.changePaths change) := by
  obtain ⟨auth?, mountPath, environment, library⟩ := s
  unfold Settings.overrides at written ⊢
  cases auth? with
  | none =>
    cases written
    rfl
  | some v =>
    cases v with
    | mapping es =>
      cases es with
      | nil =>
        cases written
        rfl
      | cons e es =>
        cases written
        rfl
    | _ =>
      dsimp only at written
      split at written
      · cases written
      next empty =>
        cases written
        exact if_neg empty

theorem options_changePaths (found : s.options = .ok options) (null : change .null = .null) :
    ∃ options', (s.changePaths change).options = .ok options' ∧ options.Changed change options' := by
  obtain ⟨entries, written, offered⟩ := Settings.exists_overrides found
  obtain ⟨options', found', offered'⟩ := Settings.options_of_mapping (overrides_changePaths written)
  have changed := changed_changePaths change entries.reverse
  refine ⟨options', found', fun name ne => ?_, ?_⟩
  · by_cases context : name = "CONTEXT_PATH"
    · subst context
      rw [offered.context, offered'.context, last?_changePaths, changed.other _ ne]
      rfl
    · rw [offered.other name context, offered'.other name context, last?_changePaths, changed.other _ ne]
      rfl
  · rw [offered.other _ (by decide), offered'.other _ (by decide), last?_changePaths, changed.paths]
    show ((Options.last? entries "PATHS").map change).or _ = ((Options.last? entries "PATHS").or _).map change
    cases Options.last? entries "PATHS" with
    | some v => rfl
    | none => exact congrArg some null.symm

theorem flag_changePaths (found : s.options = .ok options) : (s.changePaths change).flag = s.flag := by
  obtain ⟨entries, written, -⟩ := Settings.exists_overrides found
  unfold Settings.flag
  rw [overrides_changePaths written, written]
  dsimp only
  rw [(changed_changePaths change entries).other _ (by decide)]

theorem get_of_changed (changed : options.Changed change options') (ne : name ≠ "PATHS") :
    options'.get name = options.get name := by
  unfold Options.get
  rw [changed.other name ne]

/-- The policy takes no notice of the paths. -/
theorem policyFlag_changePaths (found : s.options = .ok options) (null : change .null = .null)
    (tally : Tally) : (s.changePaths change).policyFlag.answer tally = s.policyFlag.answer tally := by
  obtain ⟨options', found', changed⟩ := options_changePaths found null
  rw [answer_policyFlag found, answer_policyFlag found', get_of_changed changed (by decide)]
  simp only [resolveFlag_of_same (flag_changePaths found) rfl]
  rfl

theorem start_of_changed {o : StartOptions} (changed : options.Changed change options')
    (start : options.start = .ok o) : options'.start = .ok { o with paths := change o.paths } := by
  obtain ⟨subject, limits, context⟩ := start_eq_ok_iff.1 start
  refine start_eq_ok_iff.2 ⟨?_, ?_, ?_⟩
  · rw [changed.other _ (by decide), subject]
  · rw [changed.paths, limits]
    rfl
  · rw [changed.other _ (by decide), context]

end Change

/-! ## Paths that are read twice -/

/-- Paths that come to the same when they are read once more. -/
def Value.Repeats (paths mount : Value) : Prop :=
  enforcedPaths (pathsLeft paths mount) mount = enforcedPaths paths mount

section Repeats
variable {paths mount : Value} {steps : List (Except Fault Value)} {ps : List Value}

theorem pathsLeft_of_isLasting (lasting : paths.IsLasting) (mount : Value) : pathsLeft paths mount = paths := by
  cases paths with
  | object o =>
    have kept : o.isOnce = false := lasting
    simp [pathsLeft, kept]
  | _ => rfl

theorem repeats_of_isLasting (lasting : paths.IsLasting) : paths.Repeats mount := by
  rw [Value.Repeats, pathsLeft_of_isLasting lasting]

theorem stepsLeft_of_ok
    (read : steps.mapM (fun step => Fault.result step >>= mountedEntry mount) = .ok ps) :
    stepsLeft mount steps = [] := by
  induction steps generalizing ps with
  | nil => rfl
  | cons step steps ih =>
    rw [List.mapM_cons] at read
    obtain ⟨p, first, read⟩ := bind_eq_ok_iff.1 read
    obtain ⟨ps', rest, -⟩ := bind_eq_ok_iff.1 read
    rw [stepsLeft, first]
    exact ih rest

/-- Nothing is left of what has been read to its end. -/
theorem enforcedPaths_pathsLeft (once : ¬ paths.IsLasting) (read : enforcedPaths paths mount = .ok ps) :
    enforcedPaths (pathsLeft paths mount) mount = .ok [] := by
  cases paths with
  | object o =>
    have spent : o.isOnce = true := eq_true_of_ne_false once
    unfold pathsLeft
    simp only [spent, if_true, stepsLeft_of_ok read]
    rfl
  | _ => exact absurd trivial once

theorem repeats_iff_of_once (once : ¬ paths.IsLasting) (read : enforcedPaths paths mount = .ok ps) :
    paths.Repeats mount ↔ ps = [] := by
  rw [Value.Repeats, enforcedPaths_pathsLeft once read, read, Except.ok.injEq]
  exact eq_comm

end Repeats

/-! ## Settings after a guard has been built -/

/-- Settings as the building of a guard leaves them. Their paths are looked at if the flag is on, and only
then. -/
def Settings.afterBuild (s : Settings) (tally : Tally) : Settings :=
  match s.options >>= Options.start, s.policyFlag.answer tally with
  | .ok o, .ok true => s.changePaths fun paths => pathsLeft paths (mountOrNothing o.mount)
  | _, _ => s

/-- Settings from which the same paths are read once more, if they are looked at. -/
def Settings.Rereads (s : Settings) (tally : Tally) : Prop :=
  ∀ options o, s.options = .ok options → options.start = .ok o → s.policyFlag.answer tally = .ok true →
    o.paths.Repeats (mountOrNothing o.mount)

/-- What options give a gate to start with, after their paths have been read. -/
def StartOptions.afterRead (o : StartOptions) : StartOptions :=
  { o with paths := pathsLeft o.paths (mountOrNothing o.mount) }

section AfterBuild
variable {s : Settings} {options : Options} {o : StartOptions} {tally : Tally}

theorem scope_afterRead_iff : o.afterRead.scope = o.scope ↔ o.paths.Repeats (mountOrNothing o.mount) := by
  have null : (pathsLeft o.paths (mountOrNothing o.mount)).isNull = o.paths.isNull := by
    cases o.paths <;> rfl
  unfold StartOptions.scope StartOptions.afterRead Value.Repeats
  rw [null]
  cases given : o.paths.isNull with
  | true =>
    cases paths : o.paths with
    | null => exact iff_of_true rfl rfl
    | _ => cases paths ▸ given
  | false =>
    simp only [Bool.false_eq_true, if_false]
    cases enforcedPaths (pathsLeft o.paths (mountOrNothing o.mount)) (mountOrNothing o.mount) <;>
      cases enforcedPaths o.paths (mountOrNothing o.mount) <;> simp

theorem scope_afterRead_of_once {paths? : Option (List Value)} (once : ¬ o.paths.IsLasting)
    (read : o.scope = .ok paths?) : (∃ ps, paths? = some ps) ∧ o.afterRead.scope = .ok (some []) := by
  have given : o.paths.isNull = false := by
    cases h : o.paths with
    | null =>
      rw [h] at once
      exact absurd trivial once
    | _ => rfl
  have given' : o.afterRead.paths.isNull = false := by
    rw [← given, StartOptions.afterRead]
    cases o.paths <;> rfl
  unfold StartOptions.scope at read ⊢
  rw [given, if_neg (by decide)] at read
  rw [given', if_neg (by decide)]
  obtain ⟨ps, all, rfl⟩ := map_eq_ok_iff.1 read
  refine ⟨⟨ps, rfl⟩, ?_⟩
  show some <$> enforcedPaths (pathsLeft o.paths (mountOrNothing o.mount)) (mountOrNothing o.mount) = _
  rw [enforcedPaths_pathsLeft once all]
  rfl

theorem afterBuild_of_off (off : s.policyFlag.answer tally ≠ .ok true) : s.afterBuild tally = s := by
  unfold Settings.afterBuild
  split
  · next on => exact absurd on off
  · rfl

theorem afterBuild_of_on (found : s.options = .ok options) (start : options.start = .ok o)
    (on : s.policyFlag.answer tally = .ok true) :
    s.afterBuild tally = s.changePaths fun paths => pathsLeft paths (mountOrNothing o.mount) := by
  unfold Settings.afterBuild
  rw [found, ok_bind, start, on]

/-- The second time a start comes down to the paths that are left. -/
theorem answer_configureFrom_afterBuild {tally' : Tally} (found : s.options = .ok options)
    (start : options.start = .ok o) (on : s.policyFlag.answer tally = .ok true)
    (again : s.policyFlag.answer tally' = .ok true) :
    ∃ options', (s.afterBuild tally).options = .ok options' ∧
      options'.get "CERT_HEADER" = options.get "CERT_HEADER" ∧
      (configureFrom (s.afterBuild tally) options').answer tally' =
        (Config.on o.certContains <$> o.afterRead.scope).mapError (Failure.reportedAs .startFailed) := by
  rw [afterBuild_of_on found start on]
  obtain ⟨options', found', changed⟩ :=
    @options_changePaths s options (fun paths => pathsLeft paths (mountOrNothing o.mount)) found rfl
  refine ⟨options', found', get_of_changed changed (by decide), ?_⟩
  exact answer_configureFrom_on found' (start_of_changed changed start)
    ((policyFlag_changePaths found rfl tally').trans again)

end AfterBuild
end CertGate
