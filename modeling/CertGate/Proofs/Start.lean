import CertGate.Guard
import CertGate.Proofs.Merge

/-!
# What a start amounts to

* `Config.on` : a configuration that enforces, on some paths or on all of them. No other enforcing
  configuration is ever started (`configure_eq_ok_iff`); with texts for the paths it is
  `Config.enforcing`;
* `StartOptions.scope` : the paths that options enforce;
* `Settings.policyFlag` : the flag that the policy of some settings resolves to;
* `configureFrom_eq_ok_iff`, `build_eq_ok_iff` : when options start a gate, and when settings build
  a guard, and with which configuration.
-/

namespace CertGate

/-- A library in which nothing is found. -/
def emptyLibrary (path : String) : Except Failure Value := .error (.raised .moduleNotFound path)

/-- Settings of which nothing is asked. -/
def bareSettings : Settings := ⟨none, .null, [], emptyLibrary⟩

/-- A policy that says yes. -/
def alwaysPolicy : Value := .provider (.fixed (.bool true))

/-- A text, or nothing. -/
def Value.ofText? : Option String → Value
  | none => .null
  | some t => .text t

/-- Texts in a list, or nothing. -/
def Value.ofTexts? : Option (List String) → Value
  | none => .null
  | some ts => .list (ts.map .text)

/-- Items in a list, or nothing. -/
def Value.ofItems? : Option (List Value) → Value
  | none => .null
  | some vs => .list vs

/-- The configuration that enforces on all paths, or on those that begin with one of some values. -/
def Config.on (part : Value) (paths? : Option (List Value)) : Config :=
  ⟨.bool true, part, .ofItems? paths?⟩

/-- The configuration that enforces on all paths, or on those that begin with one of some texts. -/
def Config.enforcing (part : Value) (paths? : Option (List String)) : Config :=
  ⟨.bool true, part, .ofTexts? paths?⟩

/-- Texts as the beginnings of paths. -/
def textPaths (starts? : Option (List String)) : Option (List Value) := starts?.map (·.map .text)

theorem ofItems?_textPaths (starts? : Option (List String)) :
    Value.ofItems? (textPaths starts?) = .ofTexts? starts? := by
  cases starts? <;> rfl

theorem on_textPaths (part : Value) (starts? : Option (List String)) :
    Config.on part (textPaths starts?) = .enforcing part starts? := by
  rw [Config.on, ofItems?_textPaths, Config.enforcing]

theorem on_inj {part part' : Value} {paths? paths'? : Option (List Value)}
    (same : Config.on part paths? = .on part' paths'?) : part = part' ∧ paths? = paths'? := by
  obtain ⟨-, rfl, lists⟩ := Config.mk.inj same
  refine ⟨rfl, ?_⟩
  match paths?, paths'?, lists with
  | none, none, _ => rfl
  | some _, some _, lists => rw [Value.list.inj lists]

theorem textPaths_inj {starts? starts'? : Option (List String)}
    (same : textPaths starts? = textPaths starts'?) : starts? = starts'? := by
  match starts?, starts'?, same with
  | none, none, _ => rfl
  | some _, some _, same =>
    rw [(List.map_inj_right fun _ _ => Value.text.inj).1 (Option.some.inj same)]

@[simp] theorem isEnforcing_on (part : Value) (paths? : Option (List Value)) :
    (Config.on part paths?).isEnforcing = true := rfl

theorem enforcing_inj {part part' : Value} {starts? starts'? : Option (List String)}
    (same : Config.enforcing part starts? = .enforcing part' starts'?) :
    part = part' ∧ starts? = starts'? := by
  rw [← on_textPaths, ← on_textPaths] at same
  exact (on_inj same).imp id textPaths_inj

/-! ## One start -/

/-- The paths that options enforce, all of them when no path is given. -/
def StartOptions.scope (o : StartOptions) : Except Failure (Option (List Value)) :=
  if o.paths.isNull then .ok none
  else some <$> enforcedPaths o.paths (mountOrNothing o.mount)

theorem mountOrNothing_text (mount : String) : mountOrNothing (.text mount) = .text mount := by
  unfold mountOrNothing
  by_cases h : mount = ""
  · subst h
    rfl
  · rw [if_pos (by simpa [Value.isGiven] using h)]

/-- Entries that can all be had are put behind the mount path one after the other. -/
theorem enforcedPaths_of_entries {paths : Value} {entries : List Value}
    (read : pathEntries paths = .ok entries) (mount : Value) :
    enforcedPaths paths mount = entries.mapM (mountedEntry mount) := by
  cases paths with
  | object o =>
    have steps : o.steps.map Fault.result = entries.map Except.ok := mapM_eq_ok_iff.1 read
    show o.steps.mapM (fun step => Fault.result step >>= mountedEntry mount) = _
    have apart : o.steps.mapM (fun step => Fault.result step >>= mountedEntry mount) =
        (o.steps.map Fault.result).mapM (· >>= mountedEntry mount) := by
      rw [List.mapM_map]
      rfl
    rw [apart, steps, List.mapM_map]
    rfl
  | _ =>
    simp only [enforcedPaths]
    rw [read, ok_bind]

/-- Entries that are texts are trimmed and put behind the mount path, in their order. -/
theorem enforcedPaths_of_texts {paths : Value} {entries : List String}
    (read : pathEntries paths = .ok (entries.map .text)) (mount : String) :
    enforcedPaths paths (mountOrNothing (.text mount)) =
      .ok ((entries.map fun entry => mount ++ Text.trim entry).map .text) := by
  rw [enforcedPaths_of_entries read, mountOrNothing_text, List.mapM_map, List.map_map]
  exact mapM_eq_ok_map fun entry _ => rfl

/-- Entries that are trimmed texts are enforced behind the mount path. -/
theorem scope_of_trimmed {part paths : Value} {entries : List String}
    (given : paths.isNull = false) (read : pathEntries paths = .ok (entries.map .text))
    (trimmed : ∀ entry ∈ entries, Text.trim entry = entry) (mount : String) :
    StartOptions.scope ⟨part, paths, .text mount⟩ =
      .ok (textPaths (some (entries.map (mount ++ ·)))) := by
  have same : (entries.map fun entry => mount ++ Text.trim entry) = entries.map (mount ++ ·) :=
    List.map_congr_left fun entry mem => by rw [trimmed entry mem]
  unfold StartOptions.scope
  rw [given, enforcedPaths_of_texts read, same]
  rfl

theorem result_enforcingConfig (o : StartOptions) :
    (enforcingConfig o).result = Config.on o.certContains <$> o.scope := by
  unfold enforcingConfig StartOptions.scope
  rw [Logged.result_bind, Logged.result_tell, ok_bind, Logged.result_ite]
  split
  · rfl
  · rw [Logged.result_bind, Logged.result_liftM]
    cases enforcedPaths o.paths (mountOrNothing o.mount) with
    | ok ps =>
      rw [ok_bind, Logged.result_bind]
      rfl
    | error f => rfl

theorem answer_configure (s : Settings) (provider : Value) (o : StartOptions) (tally : Tally) :
    (configure s provider o).answer tally =
      ((resolveFlag s provider).answer tally >>= fun flag =>
        if flag then (enforcingConfig o).result else .ok .off).mapError
          (Failure.reportedAs .startFailed) := by
  unfold configure
  rw [Asking.answer_mapFailure, Asking.answer_bind, Asking.answer_liftM_logged,
    Asking.after_liftM_logged, Logged.result_tell, ok_bind, Asking.answer_bind]
  congr 2
  funext flag
  rw [Asking.answer_bind, Asking.answer_liftM_logged, Logged.result_tell, ok_bind]
  cases flag <;> rfl

/-- A start succeeds with enforcement off, or with it on and paths that can be read. -/
theorem configure_eq_ok_iff {s : Settings} {provider : Value} {o : StartOptions} {tally : Tally}
    {c : Config} :
    (configure s provider o).answer tally = .ok c ↔
      ((resolveFlag s provider).answer tally = .ok false ∧ c = .off) ∨
      ((resolveFlag s provider).answer tally = .ok true ∧
        ∃ paths?, o.scope = .ok paths? ∧ c = .on o.certContains paths?) := by
  rw [answer_configure, mapError_eq_ok_iff]
  cases resolveFlag s provider |>.answer tally with
  | error f => simp
  | ok flag =>
    cases flag with
    | false => simp [eq_comm]
    | true =>
      rw [ok_bind, if_pos rfl, result_enforcingConfig]
      cases o.scope <;> simp [eq_comm]

/-- A provider looks at the flag of the settings and at the environment, and at nothing else. -/
theorem resolveFlag_of_same {s s' : Settings} (flag : s'.flag = s.flag)
    (env : s'.environment = s.environment) (provider : Value) :
    resolveFlag s' provider = resolveFlag s provider := by
  have asked : provider.asked? s' = provider.asked? s := by
    cases provider with
    | provider p =>
      cases p with
      | fromSettings =>
        show some (liftM (s'.flag.map Value.bool)) = some (liftM (s.flag.map Value.bool))
        rw [flag]
      | fromEnvironment name default =>
        show some (liftM (s'.environmentFlag name default)) = some (liftM (s.environmentFlag name default))
        unfold Settings.environmentFlag Settings.variable?
        rw [env]
      | _ => rfl
    | _ => rfl
  unfold resolveFlag
  rw [asked]

/-! ## The start that settings ask for -/

/-- The flag that the policy of some settings resolves to. -/
def Settings.policyFlag (s : Settings) : Asking Bool := do
  resolveFlag s (← loadPolicy s (← (← s.options).get "ENFORCE_POLICY"))

/-- What options give a gate to start with. -/
def Options.start (options : Options) : Except Failure StartOptions := do
  let certContains ← options.get "CERT_CONTAINS"
  let paths ← options.get "PATHS"
  let mount ← options.get "CONTEXT_PATH"
  return ⟨certContains, paths, mount⟩

theorem start_eq_ok_iff {options : Options} {o : StartOptions} :
    options.start = .ok o ↔ options.lookup "CERT_CONTAINS" = some o.certContains ∧
      options.lookup "PATHS" = some o.paths ∧ options.lookup "CONTEXT_PATH" = some o.mount := by
  unfold Options.start
  simp only [bind_eq_ok_iff, Options.get_eq_ok_iff, pure_eq_ok, Except.ok.injEq]
  constructor
  · rintro ⟨_, part, _, paths, _, mount, rfl⟩
    exact ⟨part, paths, mount⟩
  · rintro ⟨part, paths, mount⟩
    exact ⟨_, part, _, paths, _, mount, rfl⟩

/-- Settings that have options give a gate all it needs to start with. -/
theorem exists_start {s : Settings} {options : Options} (found : s.options = .ok options) :
    ∃ o, options.start = .ok o := by
  obtain ⟨entries, offered⟩ := Settings.exists_offers found
  obtain ⟨part, subject⟩ := offered.exists_of_default "CERT_CONTAINS" (by decide) rfl
  obtain ⟨paths, limits⟩ := offered.exists_of_default "PATHS" (by decide) rfl
  obtain ⟨mount, context⟩ : ∃ mount, options.lookup "CONTEXT_PATH" = some mount := by
    rw [offered.context]
    unfold Settings.contextOr
    split <;> exact ⟨_, rfl⟩
  exact ⟨⟨part, paths, mount⟩, start_eq_ok_iff.2 ⟨subject, limits, context⟩⟩

theorem answer_configureFrom (s : Settings) (options : Options) (tally : Tally) :
    (configureFrom s options).answer tally =
      (options.get "ENFORCE_POLICY" >>= loadPolicy s) >>= fun provider =>
        options.start >>= fun o => (configure s provider o).answer tally := by
  unfold configureFrom Options.start
  simp only [Asking.answer_bind, Asking.answer_liftM, Asking.after_liftM]
  cases options.get "ENFORCE_POLICY" with
  | error f => rfl
  | ok policy =>
    rw [ok_bind, ok_bind]
    cases loadPolicy s policy with
    | error f => rfl
    | ok provider =>
      rw [ok_bind, ok_bind]
      cases options.get "CERT_CONTAINS" with
      | error f => rfl
      | ok part =>
        cases options.get "PATHS" with
        | error f => rfl
        | ok paths => cases options.get "CONTEXT_PATH" <;> rfl

theorem answer_policyFlag {s : Settings} {options : Options} (found : s.options = .ok options)
    (tally : Tally) :
    s.policyFlag.answer tally =
      (options.get "ENFORCE_POLICY" >>= loadPolicy s) >>= fun provider =>
        (resolveFlag s provider).answer tally := by
  unfold Settings.policyFlag
  simp only [Asking.answer_bind, Asking.answer_liftM, Asking.after_liftM]
  rw [found, ok_bind]
  cases options.get "ENFORCE_POLICY" <;> rfl

theorem exists_options_of_policyFlag {s : Settings} {tally : Tally} {flag : Bool}
    (resolved : s.policyFlag.answer tally = .ok flag) : ∃ options, s.options = .ok options := by
  unfold Settings.policyFlag at resolved
  rw [Asking.answer_bind, Asking.answer_liftM] at resolved
  obtain ⟨options, found, -⟩ := bind_eq_ok_iff.1 resolved
  exact ⟨options, found⟩

/-- With enforcement on a start comes down to its paths. -/
theorem answer_configureFrom_on {s : Settings} {options : Options} {o : StartOptions} {tally : Tally}
    (found : s.options = .ok options) (start : options.start = .ok o)
    (on : s.policyFlag.answer tally = .ok true) :
    (configureFrom s options).answer tally =
      (Config.on o.certContains <$> o.scope).mapError (Failure.reportedAs .startFailed) := by
  rw [answer_policyFlag found] at on
  obtain ⟨provider, loaded, resolved⟩ := bind_eq_ok_iff.1 on
  rw [answer_configureFrom, loaded, ok_bind, start, ok_bind, answer_configure, resolved, ok_bind,
    if_pos rfl, result_enforcingConfig]

/-- Options start a gate when their policy has a flag, and, with the flag on, paths that can be
read. -/
theorem configureFrom_eq_ok_iff {s : Settings} {options : Options} (found : s.options = .ok options)
    {tally : Tally} {c : Config} :
    (configureFrom s options).answer tally = .ok c ↔
      ∃ o, options.start = .ok o ∧
        ((s.policyFlag.answer tally = .ok false ∧ c = .off) ∨
        (s.policyFlag.answer tally = .ok true ∧
          ∃ paths?, o.scope = .ok paths? ∧ c = .on o.certContains paths?)) := by
  rw [answer_configureFrom, answer_policyFlag found]
  cases options.get "ENFORCE_POLICY" >>= loadPolicy s with
  | error f => simp
  | ok provider =>
    rw [ok_bind, ok_bind, bind_eq_ok_iff]
    simp only [configure_eq_ok_iff]

/-- A guard is built from settings whose options start a gate. -/
theorem build_eq_ok_iff {s : Settings} {tally : Tally} {g : Guard} :
    (Guard.build s).answer tally = .ok g ↔
      ∃ options, s.options = .ok options ∧ options.lookup "CERT_HEADER" = some g.header ∧
        ∃ c, (configureFrom s options).answer tally = .ok c ∧ g.gate = .ready c := by
  unfold Guard.build
  simp only [Asking.answer_bind, Asking.answer_liftM, Asking.after_liftM, Asking.answer_pure,
    bind_eq_ok_iff, Options.get_eq_ok_iff]
  rcases g with ⟨header, gate⟩
  constructor
  · rintro ⟨options, found, _, hheader, c, hc, same⟩
    cases same
    exact ⟨options, found, hheader, c, hc, rfl⟩
  · rintro ⟨options, found, hheader, c, hc, same⟩
    cases same
    exact ⟨options, found, header, hheader, c, hc, rfl⟩

end CertGate
