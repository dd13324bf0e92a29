import CertGate.Advice
import CertGate.Proofs.Startup

/-!
# Which settings get advice

* `Value.ListsPaths`, `entries?_isSome_iff` : the path options that are understood;
* `onPolicy_fails_iff`, `onHeader_fails_iff` : the two options at which the advice stops short, a policy whose name
  leads to another failure than that of looking it up, and a header that cannot be asked how it begins;
* `onPaths_warns_iff` : the warning about the paths, which is the only one under its name
  (`id_of_mem_onPolicy`, `id_of_mem_onHeader`);
* `advice_of_settings` : when there is no list of advice, when it is the one error about options that are no
  mapping, and when it holds the warning about the paths.
-/

namespace CertGate

/-- The path options that are understood: nothing, a text, or texts in a list or a tuple. -/
inductive Value.ListsPaths : Value → Prop
  | null : ListsPaths .null
  | text (s : String) : ListsPaths (.text s)
  | list (entries : List String) : ListsPaths (.list (entries.map .text))
  | tuple (entries : List String) : ListsPaths (.tuple (entries.map .text))

/-- What can be asked how it begins: a text, and what gives an answer of its own. -/
inductive Value.TellsBeginning : Value → Prop
  | text (s : String) : TellsBeginning (.text s)
  | object {o : Object} {fits : Bool} (begins : o.begins (Text.quoted "HTTP_") = .ok fits) :
    TellsBeginning (.object o)

namespace Advice
variable {s : Settings}

/-! ## Paths -/

theorem texts?_eq_some_iff {vs : List Value} {entries : List String} :
    texts? vs = some entries ↔ vs = entries.map .text := by
  induction vs generalizing entries with
  | nil =>
    show some [] = some entries ↔ _
    cases entries <;> simp
  | cons v vs ih =>
    have step : texts? (v :: vs) = v.text? >>= fun s => texts? vs >>= fun ss => some (s :: ss) :=
      List.mapM_cons
    rw [step]
    constructor
    · intro read
      obtain ⟨s, first, read⟩ := Option.bind_eq_some_iff.1 read
      obtain ⟨ss, others, same⟩ := Option.bind_eq_some_iff.1 read
      obtain rfl := Option.some.inj same
      cases v with
      | text t =>
        obtain rfl := Option.some.inj first
        rw [List.map_cons, ih.1 others]
      | _ => cases first
    · intro same
      cases entries with
      | nil => cases same
      | cons s ss =>
        obtain ⟨rfl, rfl⟩ := List.cons.inj same
        exact Option.bind_eq_some_iff.2 ⟨s, rfl, Option.bind_eq_some_iff.2 ⟨ss, ih.2 rfl, rfl⟩⟩

theorem entries?_isSome_iff {v : Value} : (∃ entries, entries? v = some entries) ↔ v.ListsPaths := by
  constructor
  · rintro ⟨entries, read⟩
    cases v with
    | null => exact .null
    | text s => exact .text s
    | list vs =>
      rw [texts?_eq_some_iff.1 read]
      exact .list entries
    | tuple vs =>
      rw [texts?_eq_some_iff.1 read]
      exact .tuple entries
    | _ => cases read
  · rintro (_ | ⟨s⟩ | ⟨entries⟩ | ⟨entries⟩)
    · exact ⟨[], rfl⟩
    · exact ⟨_, rfl⟩
    · exact ⟨entries, texts?_eq_some_iff.2 rfl⟩
    · exact ⟨entries, texts?_eq_some_iff.2 rfl⟩

theorem id_of_mem_onEntry {a : Advice} {entry : String} (mem : a ∈ onEntry entry) :
    a.id = "x509auth.W001" := by
  unfold onEntry at mem
  dsimp only at mem
  split at mem
  · cases mem
  · rw [List.mem_singleton.1 mem]
    rfl

theorem onPaths_warns_iff {paths : Value} :
    (∃ a ∈ onPaths paths, a.id = "x509auth.W003") ↔ ¬ paths.ListsPaths := by
  rw [← entries?_isSome_iff]
  unfold onPaths
  cases entries? paths with
  | none => exact iff_of_true ⟨_, List.mem_singleton_self _, rfl⟩ nofun
  | some entries =>
    refine iff_of_false ?_ fun unread => unread ⟨entries, rfl⟩
    rintro ⟨a, mem, named⟩
    obtain ⟨entry, -, mem⟩ := List.mem_flatMap.1 mem
    rw [id_of_mem_onEntry mem] at named
    exact absurd named (by decide)

theorem id_of_mem_onPaths {a : Advice} {paths : Value} (mem : a ∈ onPaths paths) :
    a.id = "x509auth.W001" ∨ a.id = "x509auth.W003" := by
  unfold onPaths at mem
  cases read : entries? paths with
  | none =>
    rw [read] at mem
    rw [List.mem_singleton.1 mem]
    exact .inr rfl
  | some entries =>
    rw [read] at mem
    obtain ⟨entry, -, mem⟩ := List.mem_flatMap.1 mem
    exact .inl (id_of_mem_onEntry mem)

/-! ## The policy and the header -/

theorem onPolicy_eq_error_iff {policy : Value} {f : Failure} : onPolicy s policy = .error f ↔
    ∃ path, policy = .text path ∧ s.find path = .error f ∧ f.isImport = false := by
  unfold onPolicy
  constructor
  · intro failed
    split at failed
    next path =>
      split at failed
      · cases failed
      next g lost =>
        split at failed
        · cases failed
        next raised =>
          cases failed
          exact ⟨path, rfl, lost, by simpa using raised⟩
    · cases failed
  · rintro ⟨path, rfl, lost, raised⟩
    simp only [lost, raised, Bool.false_eq_true, if_false]

theorem id_of_mem_onPolicy {policy : Value} {advices : List Advice} (given : onPolicy s policy = .ok advices)
    {a : Advice} (mem : a ∈ advices) : a.id = "x509auth.E001" := by
  unfold onPolicy at given
  split at given
  · split at given
    · cases given
      cases mem
    · split at given
      · cases given
        rw [List.mem_singleton.1 mem]
        rfl
      · cases given
  · cases given
    cases mem

theorem beginsWith_isOk_iff {header : Value} :
    (∃ fits, header.beginsWith (.text "HTTP_") = .ok fits) ↔ header.TellsBeginning := by
  constructor
  · rintro ⟨fits, begins⟩
    cases header with
    | text s => exact .text s
    | object o => exact .object (result_eq_ok_iff.1 begins)
    | _ => cases begins
  · rintro (⟨s⟩ | ⟨begins⟩)
    · exact ⟨_, rfl⟩
    · exact ⟨_, result_eq_ok_iff.2 begins⟩

theorem onHeader_fails_iff {header : Value} :
    (∃ f, onHeader header = .error f) ↔ header.isGiven = true ∧ ¬ header.TellsBeginning := by
  rw [← beginsWith_isOk_iff]
  unfold onHeader
  cases header.isGiven with
  | false => simp
  | true => cases header.beginsWith (.text "HTTP_") <;> simp

theorem id_of_mem_onHeader {header : Value} {advices : List Advice} (given : onHeader header = .ok advices)
    {a : Advice} (mem : a ∈ advices) : a.id = "x509auth.W002" := by
  unfold onHeader at given
  split at given
  · cases given
    cases mem
  · obtain ⟨fits, -, ⟨⟩⟩ := bind_eq_ok_iff.1 given
    split at mem
    · cases mem
    · rw [List.mem_singleton.1 mem]
      rfl

/-! ## All options -/

section Options
variable {options : Options} {policy paths header : Value}
  (asked : options.get "ENFORCE_POLICY" = .ok policy) (limits : options.get "PATHS" = .ok paths)
  (proxy : options.get "CERT_HEADER" = .ok header)
include asked limits proxy

theorem onOptions_eq :
    onOptions s options = onPolicy s policy >>= fun first => onHeader header >>= fun last =>
      .ok (first ++ onPaths paths ++ last) := by
  unfold onOptions
  rw [asked, limits, proxy]
  rfl

theorem onOptions_fails_iff : (∃ f, onOptions s options = .error f) ↔
    (∃ path f, policy = .text path ∧ s.find path = .error f ∧ f.isImport = false) ∨
      (header.isGiven = true ∧ ¬ header.TellsBeginning) := by
  have policy_fails : (∃ path f, policy = .text path ∧ s.find path = .error f ∧ f.isImport = false) ↔
      ∃ f, onPolicy s policy = .error f := by
    rw [exists_comm]
    simp only [onPolicy_eq_error_iff]
  rw [onOptions_eq asked limits proxy, policy_fails, ← onHeader_fails_iff]
  cases onPolicy s policy with
  | error f => simp
  | ok first => cases onHeader header <;> simp

theorem onOptions_eq_ok {advices : List Advice} (given : onOptions s options = .ok advices) :
    ∃ first last, onPolicy s policy = .ok first ∧ onHeader header = .ok last ∧
      advices = first ++ onPaths paths ++ last := by
  rw [onOptions_eq asked limits proxy] at given
  obtain ⟨first, onPolicy, given⟩ := bind_eq_ok_iff.1 given
  obtain ⟨last, onHeader, given⟩ := bind_eq_ok_iff.1 given
  exact ⟨first, last, onPolicy, onHeader, (Except.ok.inj given).symm⟩

/-- An advice about options is about one of the three. -/
theorem mem_onOptions {advices : List Advice} (given : onOptions s options = .ok advices) {a : Advice}
    (mem : a ∈ advices) : a.id = "x509auth.E001" ∨ a ∈ onPaths paths ∨ a.id = "x509auth.W002" := by
  obtain ⟨first, last, onPolicy, onHeader, rfl⟩ := onOptions_eq_ok asked limits proxy given
  rcases List.mem_append.1 mem with mem | mem
  · rcases List.mem_append.1 mem with mem | mem
    · exact .inl (id_of_mem_onPolicy onPolicy mem)
    · exact .inr (.inl mem)
  · exact .inr (.inr (id_of_mem_onHeader onHeader mem))

theorem onOptions_warns_iff {advices : List Advice} (given : onOptions s options = .ok advices) :
    (∃ a ∈ advices, a.id = "x509auth.W003") ↔ ¬ paths.ListsPaths := by
  rw [← onPaths_warns_iff]
  constructor
  · rintro ⟨a, mem, named⟩
    rcases mem_onOptions asked limits proxy given mem with other | mem | other
    · rw [other] at named
      exact absurd named (by decide)
    · exact ⟨a, mem, named⟩
    · rw [other] at named
      exact absurd named (by decide)
  · rintro ⟨a, mem, named⟩
    obtain ⟨first, last, -, -, rfl⟩ := onOptions_eq_ok asked limits proxy given
    exact ⟨a, List.mem_append_left _ (List.mem_append_right _ mem), named⟩

theorem id_of_mem_onOptions {advices : List Advice} (given : onOptions s options = .ok advices) {a : Advice}
    (mem : a ∈ advices) : a.id ≠ "x509auth.E002" := by
  rcases mem_onOptions asked limits proxy given mem with named | mem | named
  · rw [named]
    decide
  · rcases id_of_mem_onPaths mem with named | named <;> rw [named] <;> decide
  · rw [named]
    decide

end Options
end Advice

/-! ## Settings -/

/-- A value that is given in the place of the options and is no mapping. -/
def Settings.Unmapped (s : Settings) (v : Value) : Prop :=
  s.auth? = some v ∧ v.isGiven = true ∧ ∀ entries, v ≠ .mapping entries

section Settings
variable {s : Settings}

theorem overrides_of_given {v : Value} (written : s.auth? = some v) (given : v.isGiven = true) :
    s.overrides = v := by
  unfold Settings.overrides
  simp only [written, given, if_true]

theorem options_of_unmapped {v : Value} (unmapped : s.Unmapped v) :
    s.options = .error (.optionsNotMapping v.typeName) := by
  obtain ⟨written, given, other⟩ := unmapped
  unfold Settings.options
  rw [overrides_of_given written given]
  cases v with
  | mapping entries => exact absurd rfl (other entries)
  | _ => rfl

theorem exists_unmapped {f : Failure} (failed : s.options = .error f) : ∃ v, s.Unmapped v := by
  have mapped : ∀ entries, s.overrides ≠ .mapping entries := by
    intro entries written
    obtain ⟨options, found, -⟩ := Settings.options_of_mapping written
    cases failed.symm.trans found
  cases written : s.auth? with
  | none => exact absurd (by unfold Settings.overrides; rw [written]) (mapped [])
  | some v =>
    cases given : v.isGiven with
    | false =>
      refine absurd ?_ (mapped [])
      unfold Settings.overrides
      simp only [written, given, Bool.false_eq_true, if_false]
    | true =>
      refine ⟨v, written, given, fun entries same => mapped entries ?_⟩
      rw [overrides_of_given written given, same]

theorem advice_of_unmapped {v : Value} (unmapped : s.Unmapped v) :
    advice s = .ok [⟨.error, "x509auth.E002", "X509_AUTH must be a mapping, got " ++ v.typeName, none⟩] := by
  unfold advice
  rw [options_of_unmapped unmapped]
  rfl

theorem advice_of_options {options : Options} (found : s.options = .ok options) :
    advice s = Advice.onOptions s options := by
  unfold advice
  rw [found]

theorem advice_fails_iff : (∃ f, advice s = .error f) ↔ ∃ options, s.options = .ok options ∧
    ((∃ path f, options.lookup "ENFORCE_POLICY" = some (.text path) ∧ s.find path = .error f ∧
        f.isImport = false) ∨
      ∃ header, options.lookup "CERT_HEADER" = some header ∧ header.isGiven = true ∧
        ¬ header.TellsBeginning) := by
  cases found : s.options with
  | error f =>
    obtain ⟨v, unmapped⟩ := exists_unmapped found
    rw [advice_of_unmapped unmapped]
    exact iff_of_false nofun nofun
  | ok options =>
    obtain ⟨policy, asked⟩ := exists_policy found
    obtain ⟨paths, limits⟩ := exists_get found "PATHS" (by decide) rfl
    obtain ⟨header, proxy⟩ := exists_header found
    rw [advice_of_options found, Advice.onOptions_fails_iff asked limits proxy]
    simp only [Except.ok.injEq, exists_eq_left', Options.get_eq_ok_iff.1 asked,
      Options.get_eq_ok_iff.1 proxy, Option.some.injEq]

/-- The name of a policy that begins with a dot makes the advice fail. -/
theorem advice_of_dotted (rules : GoesByDots s.library) {options : Options} (found : s.options = .ok options)
    {rest : String} (named : options.lookup "ENFORCE_POLICY" = some (.text ("." ++ rest))) :
    ∃ f, advice s = .error f := by
  obtain ⟨f, lost, kind⟩ := find_dotted rules rest
  refine advice_fails_iff.2 ⟨options, found, .inl ⟨_, f, named, lost, ?_⟩⟩
  unfold Failure.isImport
  rcases kind with kind | kind <;> rw [kind] <;> rfl

end Settings

/-- Advice fails for a policy whose name leads to a failure other than that of looking it up, and for a header that
is given and cannot be asked how it begins, and for nothing else. Otherwise it is a list: the one error about
options that are no mapping exactly when they are none, and else it warns of the paths exactly when they are not
understood. -/
theorem advice_of_settings (s : Settings) :
    ((∃ f, advice s = .error f) ↔ ∃ options, s.options = .ok options ∧
      ((∃ path f, options.lookup "ENFORCE_POLICY" = some (.text path) ∧ s.find path = .error f ∧
          f.isImport = false) ∨
        ∃ header, options.lookup "CERT_HEADER" = some header ∧ header.isGiven = true ∧
          ¬ header.TellsBeginning)) ∧
      (∀ text, advice s = .ok [⟨.error, "x509auth.E002", text, none⟩] ↔
        ∃ v, s.Unmapped v ∧ text = "X509_AUTH must be a mapping, got " ++ v.typeName) ∧
      ∀ options paths advices, s.options = .ok options → options.lookup "PATHS" = some paths →
        advice s = .ok advices → ((∃ a ∈ advices, a.id = "x509auth.W003") ↔ ¬ paths.ListsPaths) := by
  refine ⟨advice_fails_iff, ?_⟩
  cases found : s.options with
  | error f =>
    obtain ⟨v, unmapped⟩ := exists_unmapped found
    refine ⟨fun text => ?_, nofun⟩
    rw [advice_of_unmapped unmapped]
    constructor
    · intro same
      cases same
      exact ⟨v, unmapped, rfl⟩
    · rintro ⟨w, ⟨written, -⟩, rfl⟩
      obtain rfl : v = w := Option.some.inj (unmapped.1.symm.trans written)
      rfl
  | ok options =>
    obtain ⟨policy, asked⟩ := exists_policy found
    obtain ⟨paths, limits⟩ := exists_get found "PATHS" (by decide) rfl
    obtain ⟨header, proxy⟩ := exists_header found
    rw [advice_of_options found]
    refine ⟨fun text => ?_, ?_⟩
    · refine iff_of_false ?_ ?_
      · intro given
        exact Advice.id_of_mem_onOptions asked limits proxy given (List.mem_singleton_self _) rfl
      · rintro ⟨v, unmapped, -⟩
        cases (options_of_unmapped unmapped).symm.trans found
    · rintro _ paths' advices ⟨⟩ limits' given
      obtain rfl : paths = paths' := Option.some.inj ((Options.get_eq_ok_iff.1 limits).symm.trans limits')
      exact Advice.onOptions_warns_iff asked limits proxy given

/-! ## A number in the place of paths, and a relative policy -/

/-- Settings with one option. -/
def settingsOf (name : String) (v : Value) : Settings where
  auth? := some (.mapping [(name, v)])
  mountPath := .null
  environment := []
  library := dottedLibrary

theorem advice_of_number :
    let s := settingsOf "PATHS" (.int 42)
    ∃ options advices, s.options = .ok options ∧ options.lookup "PATHS" = some (.int 42) ∧
      advice s = .ok advices ∧ ∃ a ∈ advices, a.id = "x509auth.W003" := by
  intro s
  refine ⟨_, [Advice.badPaths (.int 42)], rfl, rfl, rfl, ?_⟩
  exact ((advice_of_settings s).2.2 _ (.int 42) _ rfl rfl rfl).2 nofun

/-- Both happen: with a name that begins with a dot, and with a header in a list. -/
theorem advice_of_relative_fails :
    advice (settingsOf "ENFORCE_POLICY" (.text ".policy.SettingsEnforcementPolicy")) =
        .error (.raised .type
          "the 'package' argument is required to perform a relative import for '.policy'") ∧
      advice (settingsOf "CERT_HEADER" (.list [.text "HTTP_X_CERT"])) =
        .error (.missingAttribute "list" "startswith") := by
  constructor <;> rfl

end CertGate
