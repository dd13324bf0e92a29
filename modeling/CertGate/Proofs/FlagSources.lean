import CertGate.Proofs.FlagWords
import CertGate.Proofs.Rollout
import CertGate.Proofs.Warned

/-!
# Two sources of one flag

One policy reads the flag among the options of the settings, another one reads its variable. The settings of a
deployment take their flag from the same variable by a way of their own: while it is not set it is a word for off
among the options, and nothing at all where it is read directly. Still the two policies come to the same. The
environment is the one in force, with what a file has added to it.

* `Yields` : a result that is a value, or a failure of some kind where there is none;
* `EnvFile.Flagged` : the flag of an environment, which is the one among its options (`EnvFile.flagged_iff`);
* `Shipped`, `loadPolicy_of_shipped` : the two policies and the names that lead to them;
* `yields_asked`, `yields_resolveFlag` : both answer with that flag and resolve to it;
* `EnvFile.config`, `yields_configuration` : the configuration that an environment gives with a flag. There is
  one for every flag, since the paths of an environment are a text and can always be read;
* `policies_agree` : the two policies in one environment.
-/

namespace CertGate

/-! ## Results that are told by an option -/

/-- What results come to that are a value, or a failure of one kind where there is no value. -/
inductive Yields (k : Kind) {α : Type} : Option α → Except Failure α → Prop
  | value (a : α) : Yields k (some a) (.ok a)
  | failure {f : Failure} (kind : f.kind = k) : Yields k none (.error f)

theorem Yields.eq_ok {k : Kind} {α : Type} {a : α} {r : Except Failure α} (yields : Yields k (some a) r) :
    r = .ok a := by
  cases yields
  rfl

/-! ## The flag of an environment -/

namespace EnvFile

/-- The value of a variable, unless it is blank. -/
def given? (env : Environment) (name : String) : Option String := (value? env name).filter (· ≠ "")

/-- What an environment says of the flag. It is off when its variable is not set. -/
inductive Flagged (env : Environment) : Bool → Prop
  | unset (missing : value? env "X509_ENFORCE" = none) : Flagged env false
  | set {word : String} {b : Bool} (found : value? env "X509_ENFORCE" = some word)
    (means : (Value.text word).Means b) : Flagged env b

/-- Two environments that differ, if at all, in one variable. -/
def Beside (name : String) (env env' : Environment) : Prop :=
  ∀ other, other ≠ name → value? env' other = value? env other

/-- What enforced paths are put behind: the context path, or else the mount path. -/
def front (env : Environment) : String :=
  (value? env "X509_CONTEXT_PATH").getD ((given? env "FORCE_SCRIPT_NAME").getD "")

/-- The configuration that an environment gives with a flag. -/
def config (env : Environment) (flag : Bool) : Config :=
  if flag then
    .enforcing (.ofText? (given? env "X509_CERT_CONTAINS"))
      (startsOf (front env) ((given? env "X509_PATHS").map (Text.splitText ',')))
  else .off

variable {env env' : Environment} {name other : String} {b : Bool}

theorem given?_of_beside (beside : Beside name env env') (ne : other ≠ name) :
    given? env' other = given? env other := by
  unfold given?
  rw [beside other ne]

theorem config_of_beside (beside : Beside "X509_ENFORCE_POLICY" env env') (flag : Bool) :
    config env' flag = config env flag := by
  unfold config front
  rw [beside "X509_CONTEXT_PATH" (by decide), given?_of_beside beside (by decide),
    given?_of_beside beside (by decide), given?_of_beside beside (by decide)]

theorem flagged_iff_of_unset (missing : value? env "X509_ENFORCE" = none) : Flagged env b ↔ b = false := by
  constructor
  · rintro (- | ⟨found, -⟩)
    · rfl
    · cases missing.symm.trans found
  · rintro rfl
    exact .unset missing

theorem flagged_iff_of_set {word : String} (found : value? env "X509_ENFORCE" = some word) :
    Flagged env b ↔ (Value.text word).Means b := by
  constructor
  · rintro (missing | ⟨found', means⟩)
    · cases found.symm.trans missing
    · cases found.symm.trans found'
      exact means
  · exact .set found

/-- The flag among the options, where a variable that is not set is the word for off, is that of the environment. -/
theorem flagged_iff : Flagged env b ↔ (Value.text (Deployment.variableOr env "X509_ENFORCE" "0")).Means b := by
  unfold Deployment.variableOr
  cases found : value? env "X509_ENFORCE" with
  | none =>
    have off : Flag.ofWord? "0" = some false := by decide
    rw [flagged_iff_of_unset found, Option.getD_none, ← Flag.ofWord?_eq_some_iff, off, Option.some.injEq, eq_comm]
  | some word => exact flagged_iff_of_set found

theorem flagged_of_beside (beside : Beside "X509_ENFORCE_POLICY" env env') : Flagged env' b ↔ Flagged env b := by
  rw [flagged_iff, flagged_iff, Deployment.variableOr, Deployment.variableOr, beside "X509_ENFORCE" (by decide)]

end EnvFile

/-! ## The policies -/

/-- The two policies that read the flag, and the names that lead to them. -/
inductive Shipped : String → Value → Prop
  | settings : Shipped "x509auth.policy.SettingsEnforcementPolicy" (.provider .fromSettings)
  | environment : Shipped "x509auth.policy.EnvironmentEnforcementPolicy"
      (.provider (.fromEnvironment "X509_ENFORCE" (.bool false)))

theorem loadPolicy_of_shipped {name : String} {provider : Value} (shipped : Shipped name provider)
    (s : Settings) : loadPolicy s (.text name) = .ok provider := by
  cases shipped <;> rfl

section Asked
variable {library : String → Except Failure Value} {env : EnvFile.Environment} {name source : String} {provider v : Value} {flag? : Option Bool}

theorem yields_read (meant : ∀ b, flag? = some b ↔ v.Means b) : Yields .policy flag? (Flag.read source v) := by
  cases flag? with
  | some b =>
    rw [Flag.read_of_means ((meant b).1 rfl)]
    exact .value b
  | none =>
    rw [Flag.read_of_meaningless fun b means => nomatch (meant b).2 means]
    exact .failure rfl

/-- A flag that is found in some source is a truth value from then on. -/
theorem yields_found (meant : ∀ b, flag? = some b ↔ v.Means b) {r : Except Failure Value}
    (reads : v.Reads source r) : Yields .policy (flag?.map .bool) r := by
  have yields := @yields_read source v flag? meant
  rw [← bind_of_reads reads]
  generalize Flag.read source v = found at yields ⊢
  cases yields with
  | value b => exact .value _
  | failure kind => exact .failure kind

theorem overrides_ofEnvironment (env : EnvFile.Environment) (library : String → Except Failure Value) :
    (Settings.ofEnvironment env library).overrides = .mapping (Deployment.authOf env) :=
  Settings.overrides_of_mapping rfl

theorem exists_answers (shipped : Shipped name provider) (flagged : ∀ b, flag? = some b ↔ EnvFile.Flagged env b)
    (tally : Tally) :
    ∃ r, provider.Answers (Settings.ofEnvironment env library) tally none r ∧ Yields .policy (flag?.map .bool) r := by
  cases shipped with
  | settings =>
    -- among the options a flag that is not set is a word like any other
    have meant := fun b => (flagged b).trans EnvFile.flagged_iff
    obtain ⟨r, reads⟩ := exists_reads "X509_AUTH[\"ENFORCE\"]"
      (.text (Deployment.variableOr env "X509_ENFORCE" "0"))
    exact ⟨r, .settings (.mapping (overrides_ofEnvironment env library) reads), yields_found meant reads⟩
  | environment =>
    obtain ⟨r, tells⟩ := exists_tells (Settings.ofEnvironment env library) "X509_ENFORCE" (.bool false)
    refine ⟨r, .environment tells, ?_⟩
    cases tells with
    | unset missing =>
      -- the default is handed out without being read
      rw [(flagged false).2 (.unset missing)]
      exact .value _
    | set found reads =>
      exact yields_found (fun b => (flagged b).trans (EnvFile.flagged_iff_of_set found)) reads

theorem yields_asked (shipped : Shipped name provider) (flagged : ∀ b, flag? = some b ↔ EnvFile.Flagged env b)
    (tally : Tally) :
    ∃ ask, provider.asked? (Settings.ofEnvironment env library) = some ask ∧
      Yields .policy (flag?.map .bool) (ask.answer tally) := by
  obtain ⟨r, answers, yields⟩ := exists_answers shipped flagged tally
  obtain ⟨ask, asked, gives, -⟩ := asked?_of_answers answers
  exact ⟨ask, asked, gives ▸ yields⟩

theorem yields_resolveFlag (shipped : Shipped name provider)
    (flagged : ∀ b, flag? = some b ↔ EnvFile.Flagged env b) (tally : Tally) :
    Yields .policy flag? ((resolveFlag (Settings.ofEnvironment env library) provider).answer tally) := by
  obtain ⟨ask, asked, yields⟩ := yields_asked shipped flagged tally
  rw [(resolveFlag_of_asked asked tally).1]
  generalize ask.answer tally = r at yields ⊢
  cases flag? with
  | some b =>
    rw [yields.eq_ok]
    exact .value b
  | none =>
    obtain _ | kind := yields
    exact .failure kind

end Asked

/-! ## The configuration -/

theorem unlessBlank_eq (env : EnvFile.Environment) (name : String) :
    Deployment.unlessBlank env name = .ofText? (EnvFile.given? env name) := by
  unfold Deployment.unlessBlank EnvFile.given?
  cases EnvFile.value? env name with
  | none => rfl
  | some v =>
    by_cases blank : v = ""
    · subst blank
      rfl
    · simp [blank, Value.ofText?, Option.filter]

theorem plain_eq (env : EnvFile.Environment) (name : String) :
    Deployment.plain env name = .ofText? (EnvFile.value? env name) := by
  unfold Deployment.plain
  cases EnvFile.value? env name <;> rfl

/-- The options that an environment gives. -/
structure Options.Deployed (options : Options) (env : EnvFile.Environment) : Prop where
  policy : options.get "ENFORCE_POLICY" =
    .ok (.text (Deployment.variableOr env "X509_ENFORCE_POLICY" Options.defaultPolicy))
  flag : options.get "ENFORCE" = .ok (.text (Deployment.variableOr env "X509_ENFORCE" "0"))
  start : options.start = .ok ⟨.ofText? (EnvFile.given? env "X509_CERT_CONTAINS"),
    .ofText? (EnvFile.given? env "X509_PATHS"), .text (EnvFile.front env)⟩

theorem exists_deployed (env : EnvFile.Environment) (library : String → Except Failure Value) :
    ∃ options, (Settings.ofEnvironment env library).options = .ok options ∧ options.Deployed env := by
  obtain ⟨options, found, offered⟩ := Settings.options_of_mapping (overrides_ofEnvironment env library)
  -- the context path is the one variable that counts as set when it is blank
  have context : ((Deployment.authOf env : Options).last? "CONTEXT_PATH").getD .null =
      .ofText? (EnvFile.value? env "X509_CONTEXT_PATH") := plain_eq env _
  have part : options.lookup "CERT_CONTAINS" = some (.ofText? (EnvFile.given? env "X509_CERT_CONTAINS")) := by
    rw [← unlessBlank_eq]
    exact offered.other _ (by decide)
  have paths : options.lookup "PATHS" = some (.ofText? (EnvFile.given? env "X509_PATHS")) := by
    rw [← unlessBlank_eq]
    exact offered.other _ (by decide)
  have root : options.lookup "CONTEXT_PATH" = some (.text (EnvFile.front env)) := by
    rw [offered.context, contextOr_of_texts context (unlessBlank_eq env _)]
    rfl
  exact ⟨options, found, Options.get_eq_ok_iff.2 (offered.other _ (by decide)),
    Options.get_eq_ok_iff.2 (offered.other _ (by decide)), start_eq_ok_iff.2 ⟨part, paths, root⟩⟩

/-- A variable names the pieces of its text, and all paths when it is blank. -/
theorem names_of_text (paths? : Option String) :
    (Value.ofText? paths?).Names (paths?.map (Text.splitText ',')) := by
  cases paths? with
  | none => exact .all
  | some s => exact .text s

theorem yields_configure {s : Settings} {provider : Value} {o : StartOptions} {tally : Tally} {flag? : Option Bool}
    {starts? : Option (List String)} (yields : Yields .policy flag? ((resolveFlag s provider).answer tally))
    (scope : o.scope = .ok (textPaths starts?)) :
    Yields .fatal (flag?.map fun flag => if flag then .enforcing o.certContains starts? else .off)
      ((configure s provider o).answer tally) := by
  rw [answer_configure]
  generalize (resolveFlag s provider).answer tally = r at yields ⊢
  cases yields with
  | @failure f kind =>
    have handled : f.kind ≠ .exit := by
      rw [kind]
      decide
    refine .failure ?_
    rw [Failure.reportedAs_of_ne_exit handled]
    rfl
  | value flag =>
    cases flag with
    | false => exact .value _
    | true =>
      rw [ok_bind, if_pos rfl, result_enforcingConfig, scope, map_ok, on_textPaths]
      exact .value _

theorem yields_configuration {library : String → Except Failure Value} {env : EnvFile.Environment} {name : String} {provider : Value} {flag? : Option Bool}
    (shipped : Shipped name provider) (flagged : ∀ b, flag? = some b ↔ EnvFile.Flagged env b)
    (named : Deployment.variableOr env "X509_ENFORCE_POLICY" Options.defaultPolicy = name) (tally : Tally) :
    Yields .fatal (flag?.map (EnvFile.config env)) ((Settings.ofEnvironment env library).configuration.answer tally) := by
  obtain ⟨options, found, deployed⟩ := exists_deployed env library
  unfold Settings.configuration
  rw [Asking.answer_bind, Asking.answer_liftM, Asking.after_liftM, found, ok_bind, answer_configureFrom,
    deployed.policy, ok_bind, named, loadPolicy_of_shipped shipped _, ok_bind, deployed.start, ok_bind]
  exact yields_configure (yields_resolveFlag shipped flagged tally)
    (scope_of_names (names_of_text _) (mountOrNothing_text _) _)

/-! ## Both policies -/

/-- In any environment the two policies have one flag, or both fail as policies do: it is the flag of the
environment, and what is read of the flag among the options. Whether an environment names the one policy, which it
does also by naming none, or the other and differs in nothing else, a start gives the same configuration, or fails
fatally for both. -/
theorem policies_agree (env : EnvFile.Environment) (library : String → Except Failure Value) :
    ∃ flag? : Option Bool, (∀ b, flag? = some b ↔ EnvFile.Flagged env b) ∧
      (∃ options v, (Settings.ofEnvironment env library).options = .ok options ∧ options.get "ENFORCE" = .ok v ∧
        ∀ source, Yields .policy flag? (Flag.read source v)) ∧
      ∀ name provider, Shipped name provider →
        loadPolicy (Settings.ofEnvironment env library) (.text name) = .ok provider ∧
        (∀ tally, ∃ ask, provider.asked? (Settings.ofEnvironment env library) = some ask ∧
          Yields .policy (flag?.map .bool) (ask.answer tally) ∧
          Yields .policy flag? ((resolveFlag (Settings.ofEnvironment env library) provider).answer tally)) ∧
        ∀ env', EnvFile.Beside "X509_ENFORCE_POLICY" env env' →
          Deployment.variableOr env' "X509_ENFORCE_POLICY" Options.defaultPolicy = name →
          ∀ tally, Yields .fatal (flag?.map (EnvFile.config env))
            ((Settings.ofEnvironment env' library).configuration.answer tally) := by
  have flagged (b : Bool) : Flag.ofWord? (Deployment.variableOr env "X509_ENFORCE" "0") = some b ↔
      EnvFile.Flagged env b := Flag.ofWord?_eq_some_iff.trans EnvFile.flagged_iff.symm
  obtain ⟨options, found, deployed⟩ := exists_deployed env library
  refine ⟨_, flagged, ⟨options, _, found, deployed.flag, fun source => ?_⟩, fun name provider shipped => ?_⟩
  · exact yields_read fun b => Flag.ofWord?_eq_some_iff
  refine ⟨loadPolicy_of_shipped shipped _, fun tally => ?_, fun env' beside named tally => ?_⟩
  · obtain ⟨ask, asked, yields⟩ := yields_asked shipped flagged tally
    exact ⟨ask, asked, yields, yields_resolveFlag shipped flagged tally⟩
  · have flagged' := fun b => (flagged b).trans (EnvFile.flagged_of_beside beside).symm
    have same : EnvFile.config env' = EnvFile.config env := funext (EnvFile.config_of_beside beside)
    rw [← same]
    exact yields_configuration shipped flagged' named tally

/-- A word between blanks is the flag for both policies, and the paths are behind the mount path for both. -/
theorem policies_agree_reports :
    let env : EnvFile.Environment :=
      [("X509_ENFORCE", " Yes"), ("X509_PATHS", "/reports, /admin"), ("FORCE_SCRIPT_NAME", "/app")]
    let env' : EnvFile.Environment :=
      ("X509_ENFORCE_POLICY", "x509auth.policy.EnvironmentEnforcementPolicy") :: env
    let c := Config.enforcing .null (some ["/app/reports", "/app/admin"])
    EnvFile.Flagged env true ∧ EnvFile.Beside "X509_ENFORCE_POLICY" env env' ∧
      (Settings.ofEnvironment env emptyLibrary).configuration.answer [] = .ok c ∧
      (Settings.ofEnvironment env' emptyLibrary).configuration.answer [] = .ok c := by
  intro env env' c
  have on : EnvFile.Flagged env true := .set rfl (Flag.ofWord?_eq_some_iff.1 (by decide))
  have beside : EnvFile.Beside "X509_ENFORCE_POLICY" env env' := by
    intro other ne
    show List.lookup other (_ :: env) = _
    rw [List.lookup_cons, beq_false_of_ne ne]
    rfl
  have split : Text.splitText ',' "/reports, /admin" = ["/reports", " /admin"] := by decide
  have config : EnvFile.config env true = c := by
    show Config.enforcing .null (startsOf "/app" (some (Text.splitText ',' "/reports, /admin"))) = _
    rw [split]
    rfl
  obtain ⟨flag?, flagged, -, agree⟩ := policies_agree env emptyLibrary
  obtain rfl := (flagged true).2 on
  have listed := ((agree _ _ .settings).2.2 env (fun _ _ => rfl) rfl []).eq_ok
  have direct := ((agree _ _ .environment).2.2 env' beside rfl []).eq_ok
  rw [config] at listed direct
  exact ⟨on, beside, listed, direct⟩

end CertGate
