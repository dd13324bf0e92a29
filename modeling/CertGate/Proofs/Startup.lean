import CertGate.Command
import CertGate.Proofs.Lifecycle
import CertGate.Proofs.Reread

/-!
# How the application starts

A guard is built from settings, or there is none; and a command shows the configuration that the guard
would have. Whatever is wrong with the settings, both come to the same end.

* `GoesByDots` : what a library makes of the dots in a name;
* `Settings.Escapes` : what goes wrong with a policy and is not met by any handler of a start, and
  `escapes_iff` : a start fails in no other way but fatally;
* `Config.Told` : the lines that tell of a configuration;
* `Startup`, `startup_of_settings` : how the building of a guard and the showing of its configuration
  end;
* `startup_afterBuild_iff` : when the two still come to the same end after the guard has used the settings;
* `startup_of_dotted`, `startup_of_dotless` : what this amounts to for the names that are told apart by
  their dots.
-/

namespace CertGate

/-! ## Dotted names -/

/-- How a library goes by the dots of a name. A name without any is lost. One that begins with a dot is
refused, for a module without a name or for a module relative to nothing. -/
structure GoesByDots (library : String → Except Failure Value) : Prop where
  dotless : ∀ path : String, '.' ∉ path.toList → ∃ f, library path = .error f ∧ f.isImport = true
  nameless : ∀ name : String, '.' ∉ name.toList →
    ∃ f, library ("." ++ name) = .error f ∧ f.kind = .value
  relative : ∀ path : String, '.' ∈ path.toList →
    ∃ f, library ("." ++ path) = .error f ∧ f.kind = .type

section Library
variable {s : Settings}

theorem find_of_foreign {path : String} (foreign : ∀ name, path ≠ "x509auth.policy." ++ name) :
    s.find path = s.library path := by
  have unknown : Policy.shipped.lookup path = none := by
    refine List.lookup_eq_none_iff.2 fun e mem => ?_
    obtain ⟨name, made, rfl⟩ : ∃ name made, e = Policy.entry name made := by
      simp only [Policy.shipped, List.mem_cons, List.not_mem_nil, or_false] at mem
      rcases mem with rfl | rfl | rfl <;> exact ⟨_, _, rfl⟩
    exact bne_iff_ne.2 (foreign name)
  unfold Settings.find
  rw [unknown]

theorem find_dotted (rules : GoesByDots s.library) (rest : String) :
    ∃ f, s.find ("." ++ rest) = .error f ∧ (f.kind = .value ∨ f.kind = .type) := by
  have foreign (name : String) : "." ++ rest ≠ "x509auth.policy." ++ name := by
    intro same
    have first := congrArg (fun p : String => p.toList.head?) same
    simp at first
  rw [find_of_foreign foreign]
  by_cases more : '.' ∈ rest.toList
  · obtain ⟨f, lost, kind⟩ := rules.relative rest more
    exact ⟨f, lost, .inr kind⟩
  · obtain ⟨f, lost, kind⟩ := rules.nameless rest more
    exact ⟨f, lost, .inl kind⟩

theorem find_dotless (rules : GoesByDots s.library) {path : String} (dotless : '.' ∉ path.toList) :
    ∃ f, s.find path = .error f ∧ f.isImport = true := by
  have foreign (name : String) : path ≠ "x509auth.policy." ++ name := by
    rintro rfl
    rw [String.toList_append] at dotless
    exact dotless (List.mem_append_left _ (by decide))
  rw [find_of_foreign foreign]
  exact rules.dotless path dotless

end Library

/-! ## Policies -/

/-- What goes wrong with a policy and is not met by any handler of a start: its name leads to a failure
that is neither one of looking it up nor fatal, or the process ends when a provider is made of it or
asked. -/
inductive Settings.Escapes (s : Settings) (policy : Value) (tally : Tally) : Failure → Prop
  | found {path : String} {f : Failure} (named : policy = .text path) (lost : s.find path = .error f)
    (raised : f.isImport = false) (lenient : f.kind ≠ .fatal) : Escapes s policy tally f
  | made {shown : String} {f : Failure} {asked : Answer}
    (type : importPolicy s policy = .ok (.provider (.type shown (.fails f) asked)))
    (ends : f.kind = .exit) : Escapes s policy tally f
  | asked {provider : Value} {f : Failure} (loaded : loadPolicy s policy = .ok provider)
    (unanswered : (resolveFlag s provider).answer tally = .error f) (ends : f.kind = .exit) :
    Escapes s policy tally f

section Policies
variable {s : Settings} {policy : Value} {tally : Tally} {f : Failure}

theorem Settings.Escapes.kind_ne_fatal (escapes : s.Escapes policy tally f) : f.kind ≠ .fatal := by
  cases escapes with
  | found named lost raised lenient => exact lenient
  | made type ends | asked loaded unanswered ends =>
    rw [ends]
    decide

theorem importPolicy_eq_error_iff : importPolicy s policy = .error f ↔ ∃ path cause,
    policy = .text path ∧ s.find path = .error cause ∧
      f = if cause.isImport then .policyNotImported path cause else cause := by
  unfold importPolicy
  constructor
  · intro failed
    split at failed
    next path =>
      cases lost : s.find path with
      | ok v =>
        rw [lost] at failed
        cases failed
      | error cause =>
        rw [lost] at failed
        exact ⟨path, cause, rfl, lost, (Except.error.inj failed).symm⟩
    · cases failed
  · rintro ⟨path, cause, rfl, lost, rfl⟩
    simp only [lost]

theorem makePolicy_eq_error_iff {v : Value} : makePolicy v = .error f ↔ ∃ shown cause asked,
    v = .provider (.type shown (.fails cause) asked) ∧
      f = cause.reportedAs (.policyNotCreated shown) := by
  unfold makePolicy
  constructor
  · intro failed
    split at failed
    · split at failed
      · cases failed
      · cases failed
        exact ⟨_, _, _, rfl, rfl⟩
    · cases failed
  · rintro ⟨shown, cause, asked, rfl, rfl⟩
    rfl

theorem escapes_of_loadPolicy (failed : loadPolicy s policy = .error f) (lenient : f.kind ≠ .fatal) :
    s.Escapes policy tally f := by
  rcases bind_eq_error_iff.1 failed with unfound | ⟨v, found, unmade⟩
  · obtain ⟨path, cause, named, lost, rfl⟩ := importPolicy_eq_error_iff.1 unfound
    cases raised : cause.isImport with
    | true =>
      rw [if_pos raised] at lenient
      exact absurd rfl lenient
    | false =>
      rw [if_neg (by simp [raised])] at lenient ⊢
      exact .found named lost raised lenient
  · obtain ⟨shown, cause, asked, rfl, rfl⟩ := makePolicy_eq_error_iff.1 unmade
    by_cases ends : cause.kind = .exit
    · rw [Failure.reportedAs_of_exit ends]
      exact .made found ends
    · rw [Failure.reportedAs_of_ne_exit ends] at lenient
      exact absurd rfl lenient

theorem loadPolicy_of_found {path : String} (lost : s.find path = .error f)
    (raised : f.isImport = false) : loadPolicy s (.text path) = .error f := by
  have unfound : importPolicy s (.text path) = .error f :=
    importPolicy_eq_error_iff.2 ⟨path, f, rfl, lost, by simp [raised]⟩
  unfold loadPolicy
  rw [unfound, error_bind]

theorem loadPolicy_of_made {shown : String} {asked : Answer}
    (type : importPolicy s policy = .ok (.provider (.type shown (.fails f) asked)))
    (ends : f.kind = .exit) : loadPolicy s policy = .error f := by
  unfold loadPolicy
  rw [type, ok_bind, makePolicy_eq_error_iff.2 ⟨shown, f, asked, rfl, rfl⟩,
    Failure.reportedAs_of_exit ends]

end Policies

/-! ## Guards -/

section Build
variable {s : Settings} {options : Options} {tally tally' : Tally}

theorem kind_of_options {f : Failure} (failed : s.options = .error f) : f.kind = .fatal := by
  unfold Settings.options at failed
  split at failed
  · dsimp only at failed
    split at failed <;> cases failed
  · cases failed
    rfl

theorem exists_get (found : s.options = .ok options) {default : Value} (name : String)
    (ne : name ≠ "CONTEXT_PATH") (known : Options.defaults.lookup name = some default) :
    ∃ v, options.get name = .ok v := by
  obtain ⟨entries, offered⟩ := Settings.exists_offers found
  obtain ⟨v, there⟩ := offered.exists_of_default name ne known
  exact ⟨v, Options.get_eq_ok_iff.2 there⟩

theorem exists_policy (found : s.options = .ok options) :
    ∃ policy, options.get "ENFORCE_POLICY" = .ok policy :=
  exists_get found "ENFORCE_POLICY" (by decide) rfl

theorem exists_header (found : s.options = .ok options) :
    ∃ header, options.get "CERT_HEADER" = .ok header :=
  exists_get found "CERT_HEADER" (by decide) rfl

/-- A start that fails in another way than fatally has a policy that escapes. -/
theorem escapes_iff (found : s.options = .ok options) {policy : Value}
    (named : options.get "ENFORCE_POLICY" = .ok policy) {f : Failure} :
    (configureFrom s options).answer tally = .error f ∧ f.kind ≠ .fatal ↔
      s.Escapes policy tally f := by
  obtain ⟨o, start⟩ := exists_start found
  rw [answer_configureFrom, named, ok_bind, start]
  constructor
  · rintro ⟨failed, lenient⟩
    rcases bind_eq_error_iff.1 failed with unloaded | ⟨provider, loaded, unconfigured⟩
    · exact escapes_of_loadPolicy unloaded lenient
    · obtain ⟨ends, unanswered⟩ := (kind_of_configure unconfigured).resolve_left lenient
      exact .asked loaded unanswered ends
  · intro escapes
    refine ⟨?_, escapes.kind_ne_fatal⟩
    cases escapes with
    | found text lost raised =>
      obtain rfl := text
      rw [loadPolicy_of_found lost raised, error_bind]
    | made type ends => rw [loadPolicy_of_made type ends, error_bind]
    | asked loaded unanswered ends =>
      rw [loaded, ok_bind, ok_bind, configure_of_exit ends unanswered]

/-- All that a start has of its policy is the answer that it gets. -/
theorem configureFrom_of_same (found : s.options = .ok options)
    (same : s.policyFlag.answer tally' = s.policyFlag.answer tally) :
    (configureFrom s options).answer tally' = (configureFrom s options).answer tally := by
  rw [answer_policyFlag found, answer_policyFlag found] at same
  rw [answer_configureFrom, answer_configureFrom]
  -- a policy that is not loaded is never asked, one that is loaded is asked first of all
  generalize (options.get "ENFORCE_POLICY" >>= loadPolicy s) = loaded at same ⊢
  cases loaded with
  | error f => rfl
  | ok provider =>
    rw [ok_bind, ok_bind] at same
    simp only [ok_bind, answer_configure, same]

theorem answer_build (found : s.options = .ok options) {header : Value}
    (proxy : options.get "CERT_HEADER" = .ok header) :
    (Guard.build s).answer tally =
      (fun c => ⟨header, .ready c⟩) <$> (configureFrom s options).answer tally := by
  unfold Guard.build
  simp only [Asking.answer_bind, Asking.answer_liftM, Asking.after_liftM, found, proxy, ok_bind]
  cases (configureFrom s options).answer tally <;> rfl

theorem build_of_error {f : Failure} (failed : s.options = .error f) :
    (Guard.build s).answer tally = .error f := by
  unfold Guard.build
  rw [Asking.answer_bind, Asking.answer_liftM, failed, error_bind]

/-! ## The configuration in print -/

theorem answer_status_of_error {f : Failure} (failed : s.options = .error f) :
    (Command.status s).answer tally = .error (.commandFailed f) := by
  unfold Command.status
  rw [Asking.answer_mapFailure, Asking.answer_bind, Asking.answer_liftM, failed, error_bind]
  exact congrArg Except.error (if_pos (decide_eq_true (kind_of_options failed)))

theorem answer_status (found : s.options = .ok options) {header : Value}
    (proxy : options.get "CERT_HEADER" = .ok header) :
    (Command.status s).answer tally =
      ((fun c => String.join ((Command.statusLines c header).map withLineEnd)) <$>
        (configureFrom s options).answer tally).mapError
          fun f => if f.isFatal then .commandFailed f else f := by
  unfold Command.status
  rw [Asking.answer_mapFailure, Asking.answer_bind, Asking.answer_liftM, Asking.after_liftM, found,
    ok_bind, Asking.answer_bind]
  simp only [Asking.answer_bind, Asking.answer_liftM, Asking.answer_pure, proxy, ok_bind]
  cases (configureFrom s options).answer tally <;> rfl

end Build

/-- How the text is told that subjects have to contain. -/
def subjectTold (part : Value) : String := if part.isGiven then part.toText else "(any subject)"

/-- How the header is told that a proxy sets, if there is one. -/
def headerTold (header : Value) : List String :=
  if header.isGiven then ["Forwarded certificate header: " ++ header.toText] else []

/-- The lines that tell of a configuration: the flag, the text that subjects have to contain, and the
enforced paths in their order. -/
inductive Config.Told (header : Value) : Config → List String → Prop
  | off : Told header .off ["Enforce: False"]
  | everywhere (part : Value) : Told header (.on part none)
      (["Enforce: True", "Cert must contain: " ++ subjectTold part, "Enforced paths: (all)"] ++
        headerTold header)
  | onPaths (part : Value) (paths : List Value) : Told header (.on part (some paths))
      (["Enforce: True", "Cert must contain: " ++ subjectTold part, "Enforced paths:"] ++
        paths.map (fun path => "  " ++ path.toText) ++ headerTold header)

theorem told_on (header part : Value) (paths? : Option (List Value)) :
    (Config.on part paths?).Told header (Command.statusLines (.on part paths?) header) := by
  cases paths? with
  | none => exact .everywhere part
  | some paths => exact .onPaths part paths

/-! ## Both ends of a start -/

/-- How the building of a guard ends, and with it the command that shows its configuration. -/
inductive Startup : Except Failure Guard → Except Failure String → Prop
  /-- The guard is ready, and what is printed tells of its configuration. -/
  | ready (g : Guard) (c : Config) (lines : List String) : g.gate = .ready c → c.Told g.header lines →
      Startup (.ok g) (.ok (String.join (lines.map withLineEnd)))
  /-- There is no guard, for a fatal failure; the command reports it in the same words. -/
  | reported (f report : Failure) :
      f.kind = .fatal → report.kind = .command → report.cause? = some f →
        report.message = f.message → Startup (.error f) (.error report)
  /-- There is no guard, and what went wrong passes through the command as well. -/
  | astray (f : Failure) : f.kind ≠ .fatal → Startup (.error f) (.error f)

theorem told_of_startup {g : Guard} {text : String} (both : Startup (.ok g) (.ok text)) :
    ∃ c lines, g.gate = .ready c ∧ c.Told g.header lines ∧ text = String.join (lines.map withLineEnd) := by
  cases both with
  | ready g c lines gate told => exact ⟨c, lines, gate, told, rfl⟩

theorem cause_of_startup {f report : Failure} (both : Startup (.error f) (.error report))
    (fatal : f.kind = .fatal) : report.cause? = some f := by
  cases both with
  | reported f report _ _ cause => exact cause
  | astray f lenient => exact absurd fatal lenient

theorem startup_of_error (f : Failure) :
    Startup (.error f) (.error (if f.isFatal then .commandFailed f else f)) := by
  unfold Failure.isFatal
  by_cases fatal : f.kind = .fatal
  · rw [if_pos (decide_eq_true fatal)]
    exact .reported f _ fatal rfl rfl rfl
  · rw [if_neg (by simpa using fatal)]
    exact .astray f fatal

section Settings
variable {s : Settings} {tally tally' : Tally}

theorem startup_of_options {options : Options} (found : s.options = .ok options)
    (same : s.policyFlag.answer tally' = s.policyFlag.answer tally) :
    Startup ((Guard.build s).answer tally) ((Command.status s).answer tally') := by
  obtain ⟨header, proxy⟩ := exists_header found
  rw [answer_build found proxy, answer_status found proxy, configureFrom_of_same found same]
  cases started : (configureFrom s options).answer tally with
  | ok c =>
    obtain ⟨o, -, ⟨-, rfl⟩ | ⟨-, paths?, -, rfl⟩⟩ := (configureFrom_eq_ok_iff found).1 started
    · exact .ready ⟨header, _⟩ _ _ rfl .off
    · exact .ready ⟨header, _⟩ _ _ rfl (told_on header _ paths?)
  | error f => exact startup_of_error f

/-- Paths that have been told are missed in what is told without them. -/
theorem not_told_without {header part : Value} {p : Value} {ps : List Value} {lines : List String}
    (told : (Config.on part (some (p :: ps))).Told header lines) :
    String.join (lines.map withLineEnd) ≠
      String.join ((Command.statusLines (.on part (some [])) header).map withLineEnd) := by
  generalize same : Config.on part (some (p :: ps)) = c at told
  cases told with
  | off =>
    have differ : true = false := congrArg Config.isEnforcing same
    cases differ
  | everywhere => cases (on_inj same).2
  | onPaths part' paths =>
    obtain ⟨rfl, listed⟩ := on_inj same
    cases listed
    intro alike
    have told' : Command.statusLines (.on part (some [])) header =
        ["Enforce: True", "Cert must contain: " ++ subjectTold part, "Enforced paths:"] ++ [] ++
          headerTold header := rfl
    have more : 0 < (withLineEnd ("  " ++ p.toText)).length := by
      have two : "  ".length = 2 := rfl
      unfold withLineEnd
      split
      · rw [String.length_append]
        omega
      · rw [String.length_append, String.length_append]
        omega
    have lengths := congrArg String.length alike
    rw [told'] at lengths
    simp only [List.map_append, String.length_join, List.sum_append, List.map_cons, List.sum_cons, List.map_nil,
      List.sum_nil] at lengths
    omega

theorem eq_nil_of_startup {header part : Value} {ps : List Value}
    (both : Startup (.ok ⟨header, .ready (.on part (some ps))⟩)
      (.ok (String.join ((Command.statusLines (.on part (some [])) header).map withLineEnd)))) :
    ps = [] := by
  obtain ⟨c, lines, gate, told, printed⟩ := told_of_startup both
  obtain rfl := Gate.ready_inj.1 gate
  cases ps with
  | nil => rfl
  | cons p ps => exact absurd printed.symm (not_told_without told)

theorem eq_of_startup {f f' : Failure} (handled : f.kind ≠ .exit) (handled' : f'.kind ≠ .exit)
    (both : Startup (.error (f.reportedAs .startFailed))
      (.error (if (f'.reportedAs .startFailed).isFatal then .commandFailed (f'.reportedAs .startFailed)
        else f'.reportedAs .startFailed))) : f' = f := by
  rw [Failure.reportedAs_of_ne_exit handled, Failure.reportedAs_of_ne_exit handled'] at both
  cases cause_of_startup both rfl
  rfl

/-- A start and a second one, from what the first has left, come to the same end if the paths do. -/
theorem startup_afterBuild {options : Options} {o : StartOptions} (found : s.options = .ok options)
    (start : options.start = .ok o) (on : s.policyFlag.answer tally = .ok true)
    (again : s.policyFlag.answer tally' = .ok true) :
    Startup ((Guard.build s).answer tally) ((Command.status (s.afterBuild tally)).answer tally') ↔
      o.paths.Repeats (mountOrNothing o.mount) := by
  obtain ⟨header, proxy⟩ := exists_header found
  obtain ⟨options', found', proxy', left⟩ := answer_configureFrom_afterBuild found start on again
  rw [answer_build found proxy, answer_status found' (proxy'.trans proxy), left,
    answer_configureFrom_on found start on, ← scope_afterRead_iff]
  constructor
  · intro both
    by_cases lasting : o.paths.IsLasting
    · exact scope_afterRead_iff.2 (repeats_of_isLasting lasting)
    cases read : o.scope with
    | ok paths? =>
      obtain ⟨⟨ps, rfl⟩, left⟩ := scope_afterRead_of_once lasting read
      rw [read, left] at both
      rw [left, eq_nil_of_startup both]
    | error f =>
      rw [read] at both
      cases read' : o.afterRead.scope with
      | ok paths? =>
        rw [read'] at both
        cases both
      | error f' =>
        rw [read'] at both
        exact congrArg Except.error
          (eq_of_startup (onlyForeign_scope o f read).2.2 (onlyForeign_scope _ f' read').2.2 both)
  · intro same
    have both := startup_of_options found (again.trans on.symm)
    rw [answer_build found proxy, answer_status found proxy, answer_configureFrom_on found start on,
      answer_configureFrom_on found start again] at both
    rw [same]
    exact both

theorem startup_of_same (same : s.policyFlag.answer tally' = s.policyFlag.answer tally) :
    Startup ((Guard.build s).answer tally) ((Command.status s).answer tally') := by
  cases found : s.options with
  | error f =>
    rw [build_of_error found, answer_status_of_error found]
    exact .reported f _ (kind_of_options found) rfl rfl rfl
  | ok options => exact startup_of_options found same

theorem startup_afterBuild_iff (same : s.policyFlag.answer tally' = s.policyFlag.answer tally) :
    Startup ((Guard.build s).answer tally) ((Command.status (s.afterBuild tally)).answer tally') ↔
      s.Rereads tally := by
  by_cases on : s.policyFlag.answer tally = .ok true
  · obtain ⟨options, found⟩ := exists_options_of_policyFlag on
    obtain ⟨o, start⟩ := exists_start found
    rw [startup_afterBuild found start on (same.trans on)]
    constructor
    · intro repeats options' o' found' start' _
      cases found.symm.trans found'
      cases start.symm.trans start'
      exact repeats
    · intro rereads
      exact rereads options o found start on
  · rw [afterBuild_of_off on]
    exact iff_of_true (startup_of_same same) fun _ _ _ _ on' => absurd on' on

theorem build_fails_iff {f : Failure} :
    (Guard.build s).answer tally = .error f ∧ f.kind ≠ .fatal ↔
      ∃ options policy, s.options = .ok options ∧ options.lookup "ENFORCE_POLICY" = some policy ∧
        s.Escapes policy tally f := by
  cases found : s.options with
  | error e =>
    rw [build_of_error found]
    refine iff_of_false ?_ nofun
    rintro ⟨⟨⟩, lenient⟩
    exact lenient (kind_of_options found)
  | ok options =>
    obtain ⟨header, proxy⟩ := exists_header found
    obtain ⟨policy, named⟩ := exists_policy found
    rw [answer_build found proxy, map_eq_error_iff, escapes_iff found named]
    simp [Options.get_eq_ok_iff.1 named]

end Settings

/-- Whatever the settings are, a guard is built from them and its configuration printed, or both fail
for the same reason: a fatal one, unless the policy escapes. So it is with what the guard has left of the
settings too, exactly if there are the same paths in it. -/
theorem startup_of_settings (s : Settings) (tally tally' : Tally)
    (same : s.policyFlag.answer tally' = s.policyFlag.answer tally) :
    Startup ((Guard.build s).answer tally) ((Command.status s).answer tally') ∧
      (Startup ((Guard.build s).answer tally) ((Command.status (s.afterBuild tally)).answer tally') ↔
        s.Rereads tally) ∧
      ∀ f, (Guard.build s).answer tally = .error f ∧ f.kind ≠ .fatal ↔
        ∃ options policy, s.options = .ok options ∧ options.lookup "ENFORCE_POLICY" = some policy ∧
          s.Escapes policy tally f :=
  ⟨startup_of_same same, startup_afterBuild_iff same, fun _ => build_fails_iff⟩

/-- Why a name is refused in a module relative to nothing. -/
def relativeModule (path : String) : Failure :=
  .raised .type ("the 'package' argument is required to perform a relative import for " ++
    Text.quoted (Text.joinTexts '.' (Text.splitText '.' path).dropLast))

/-- A library in which a name that begins with a dot is refused, and every other one lost. -/
def dottedLibrary (path : String) : Except Failure Value :=
  match path.toList with
  | '.' :: rest =>
    .error (if '.' ∈ rest then relativeModule path else .raised .value "Empty module name")
  | _ => emptyLibrary path

/-- Settings with a policy and one path. -/
def settingsAsking (policy : Value) : Settings where
  auth? := some (.mapping [("ENFORCE_POLICY", policy), ("PATHS", .text "/reports")])
  mountPath := .text "/app"
  environment := []
  library := dottedLibrary

/-- A function is the policy, and has been called once when the configuration is printed. -/
theorem startup_of_function :
    let s := settingsAsking (.provider (.callable 0 [.gives (.bool true)]))
    s.policyFlag.answer [0] = s.policyFlag.answer [] ∧
      (Guard.build s).answer [] = .ok ⟨.null, .ready (.enforcing .null (some ["/app/reports"]))⟩ ∧
      Startup ((Guard.build s).answer []) ((Command.status s).answer [0]) := by
  intro s
  have same : s.policyFlag.answer [0] = s.policyFlag.answer [] := rfl
  exact ⟨same, rfl, (startup_of_settings s [] [0] same).1⟩

/-! ## Names with dots and without -/

section Dots
variable {s : Settings} {options : Options} {tally : Tally}

/-- A policy whose name begins with a dot keeps the guard from being built, and no handler meets it. -/
theorem startup_of_dotted (rules : GoesByDots s.library) (found : s.options = .ok options) {rest : String}
    (named : options.lookup "ENFORCE_POLICY" = some (.text ("." ++ rest))) :
    ∃ f, (Guard.build s).answer tally = .error f ∧ (f.kind = .value ∨ f.kind = .type) := by
  obtain ⟨f, lost, kind⟩ := find_dotted rules rest
  refine ⟨f, (build_fails_iff.2 ⟨options, _, found, named, .found rfl lost ?_ ?_⟩).1, kind⟩
  · unfold Failure.isImport
    rcases kind with kind | kind <;> rw [kind] <;> rfl
  · rcases kind with kind | kind <;> rw [kind] <;> decide

/-- A policy whose name has no dot is a fatal failure. -/
theorem startup_of_dotless (rules : GoesByDots s.library) (found : s.options = .ok options) {path : String}
    (dotless : '.' ∉ path.toList) (named : options.lookup "ENFORCE_POLICY" = some (.text path)) :
    ∃ f, (Guard.build s).answer tally = .error f ∧ f.kind = .fatal := by
  obtain ⟨cause, lost, missing⟩ := find_dotless rules dotless
  obtain ⟨header, proxy⟩ := exists_header found
  refine ⟨.policyNotImported path cause, ?_, rfl⟩
  have unloaded : loadPolicy s (.text path) = .error (.policyNotImported path cause) := by
    unfold loadPolicy
    rw [importPolicy_eq_error_iff.2 ⟨path, cause, rfl, lost, by rw [if_pos missing]⟩, error_bind]
  rw [answer_build found proxy, answer_configureFrom, Options.get_eq_ok_iff.2 named, ok_bind, unloaded,
    error_bind, map_error]

end Dots

theorem goesByDots_dottedLibrary : GoesByDots dottedLibrary where
  dotless path dotless := by
    refine ⟨.raised .moduleNotFound path, ?_, rfl⟩
    unfold dottedLibrary
    split
    next front => simp [front] at dotless
    rfl
  nameless name dotless := by
    refine ⟨.raised .value "Empty module name", ?_, rfl⟩
    simp [dottedLibrary, dotless]
  relative path dotted := by
    refine ⟨relativeModule ("." ++ path), ?_, rfl⟩
    simp [dottedLibrary, dotted]

/-- A policy that is named by a relative path fails in another way than fatally, for the guard and for
the command. -/
theorem relative_policy_astray :
    let s := settingsAsking (.text ".policy.SettingsEnforcementPolicy")
    let f := Failure.raised .type
      "the 'package' argument is required to perform a relative import for '.policy'"
    GoesByDots s.library ∧ (Guard.build s).answer [] = .error f ∧
      (Command.status s).answer [] = .error f ∧ f.kind = .type := by
  refine ⟨goesByDots_dottedLibrary, ?_, ?_, rfl⟩ <;> rfl

end CertGate
