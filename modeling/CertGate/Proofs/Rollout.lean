import CertGate.Deployment
import CertGate.Proofs.EnvFile
import CertGate.Proofs.NewFile
import CertGate.Proofs.Start

/-!
# From a new environment file to a configuration

The file that `Command.generate` writes is filled in and loaded, and the application is deployed
with what it says.

* `Settings.configuration` : the configuration that settings give;
* `writtenFile_eq` : what is written;
* `configuration_of_newFile` : the configuration that a filled-in file leads to. The paths are
  behind the context path of the file and nothing else, so that they are behind the mount path only
  if the context path repeats it.
-/

namespace CertGate

/-- The configuration that settings give. -/
def Settings.configuration (s : Settings) : Asking Config := do configureFrom s (← s.options)

namespace EnvFile

/-- The lines of a new file. -/
def newLines (secret : String) (enforce : Bool) : List Line := [
  .blank,
  .binding "DJANGO_SECRET_KEY" secret,
  .binding "DEBUG" "1",
  .binding "ALLOWED_HOSTS" "*",
  .blank,
  .comment " Mount path of the application, prepended to every X509_PATHS entry",
  .binding "FORCE_SCRIPT_NAME" "",
  .blank,
  .binding "X509_ENFORCE_POLICY" "x509auth.policy.SettingsEnforcementPolicy",
  .binding "X509_ENFORCE" (if enforce then "1" else "0"),
  .binding "X509_CERT_CONTAINS" "",
  .binding "X509_PATHS" "",
  .binding "X509_CONTEXT_PATH" "",
  .binding "X509_CERT_HEADER" "",
  .blank,
  .binding "LOG_LEVEL" "INFO",
  .blank]

theorem template_eq (secret : String) (enforce : Bool) :
    template secret enforce = textOf (newLines secret enforce) := by
  simp [template, templateLines, textOf, newLines, Line.text, ← String.append_assoc]

theorem plain_newLines {secret : String} (bare : Bare secret) (enforce : Bool) :
    ∀ l ∈ newLines secret enforce, l.Plain := by
  have flag : Bare (if enforce then "1" else "0") := by cases enforce <;> decide
  simp only [newLines, List.forall_mem_cons, List.not_mem_nil, false_imp_iff, implies_true,
    and_true]
  exact ⟨.blank, .binding (by decide) bare, .binding (by decide) (by decide),
    .binding (by decide) (by decide), .blank, .comment (by decide),
    .binding (by decide) (by decide), .blank, .binding (by decide) (by decide),
    .binding (by decide) flag, .binding (by decide) (by decide), .binding (by decide) (by decide),
    .binding (by decide) (by decide), .binding (by decide) (by decide), .blank,
    .binding (by decide) (by decide), .blank⟩

/-- The variables of a new file in which enforcement is on and a mount path, paths and a context
path are filled in. -/
def filledVariables (secret mount paths context : String) : Environment := [
  ("DJANGO_SECRET_KEY", secret), ("DEBUG", "1"), ("ALLOWED_HOSTS", "*"),
  ("FORCE_SCRIPT_NAME", mount),
  ("X509_ENFORCE_POLICY", "x509auth.policy.SettingsEnforcementPolicy"), ("X509_ENFORCE", "1"),
  ("X509_CERT_CONTAINS", ""), ("X509_PATHS", paths), ("X509_CONTEXT_PATH", context),
  ("X509_CERT_HEADER", ""), ("LOG_LEVEL", "INFO")]

/-- A new file filled in. -/
def fillNew (mount paths context file : String) : String :=
  fill "FORCE_SCRIPT_NAME" mount (fill "X509_PATHS" paths (fill "X509_CONTEXT_PATH" context file))

theorem load_fillNew {secret mount paths context : String} (hsecret : Bare secret)
    (hmount : Bare mount) (hpaths : Bare paths) (hcontext : Bare context) :
    load [] (fillNew mount paths context (template secret true)) =
      .ok (filledVariables secret mount paths context) := by
  have plain := plain_newLines hsecret true
  have plain₁ := plain_map_fill "X509_CONTEXT_PATH" hcontext plain
  have plain₂ := plain_map_fill "X509_PATHS" hpaths plain₁
  have plain₃ := plain_map_fill "FORCE_SCRIPT_NAME" hmount plain₂
  have entries : ((((newLines secret true).map (Line.fill "X509_CONTEXT_PATH" context)).map
      (Line.fill "X509_PATHS" paths)).map (Line.fill "FORCE_SCRIPT_NAME" mount)).filterMap
        Line.entry? = filledVariables secret mount paths context := by
    simp [newLines, Line.fill, List.filterMap_cons, Line.entry?, filledVariables]
  have distinct : ((filledVariables secret mount paths context).map Prod.fst).Nodup := by
    simp [filledVariables]
  rw [fillNew, template_eq, fill_textOf (by decide) context (by simp [newLines]) plain,
    fill_textOf (by decide) paths (by simp [newLines]) plain₁,
    fill_textOf (by decide) mount (by simp [newLines]) plain₂,
    load_textOf plain₃ (by rw [entries]; exact distinct), entries]

/-- A context path that is left blank is left as it is. -/
theorem fill_blank_context {secret : String} (hsecret : Bare secret) :
    fill "X509_CONTEXT_PATH" "" (template secret true) = template secret true := by
  rw [template_eq, fill_textOf (by decide) "" (by simp [newLines]) (plain_newLines hsecret true)]
  simp [newLines, Line.fill]

end EnvFile

/-! ## The written file -/

/-- What a command adds to a directory is a new file. -/
theorem writtenFile_eq {paint : Paint} {secret path spot file : String} {enforce : Bool}
    {d : Directory}
    (written : (Command.generate paint secret path enforce d).2.files = d.files ++ [(spot, file)]) :
    file = EnvFile.template secret enforce := by
  unfold Command.generate at written
  split at written
  · simp at written
  · split at written
    · next created =>
      obtain ⟨folder, name, -, -, -, -, rfl⟩ := Directory.create_eq_ok_iff.1 created
      have same := List.append_cancel_left written
      simp only [List.cons.injEq, Prod.mk.injEq, and_true] at same
      exact same.2.symm
    · simp at written

/-! ## The configuration -/

theorem mem_intercalate {α : Type} {sep xs : List α} {xss : List (List α)} (mem : xs ∈ xss) {a : α}
    (inside : a ∈ xs) : a ∈ sep.intercalate xss := by
  induction xss with
  | nil => cases mem
  | cons ys yss ih =>
    cases yss with
    | nil => simpa [List.mem_singleton.1 mem] using inside
    | cons zs zss =>
      rw [List.intercalate_cons_cons]
      rcases List.mem_cons.1 mem with rfl | mem
      · simp [inside]
      · simp [ih mem]

/-- The pieces of a text are made of characters of the text. -/
theorem mem_of_mem_splitText {sep c : Char} {s piece : String} (mem : piece ∈ Text.splitText sep s)
    (inside : c ∈ piece.toList) : c ∈ s.toList := by
  rw [← Text.joinTexts_splitText sep s, Text.joinTexts, String.toList_ofList]
  exact mem_intercalate (List.mem_map_of_mem mem) inside

theorem trim_bare {s : String} (bare : EnvFile.Bare s) : Text.trim s = s := by
  have no_blank : ∀ c ∈ s.toList, Text.isBlank c = false := fun c mem =>
    (EnvFile.isBare_iff.1 (bare c mem)).1
  apply String.toList_inj.1
  rw [Text.toList_trim]
  exact Text.trimBy_eq_self (fun c mem => no_blank c (List.mem_of_mem_head? mem))
    fun c mem => no_blank c (List.mem_of_mem_getLast? mem)

/-- The settings in an environment. -/
def Settings.ofEnvironment (env : EnvFile.Environment)
    (library : String → Except Failure Value) : Settings :=
  (Deployment.ofEnvironment env).settings env library

/-- The options that enforce some paths behind a context path. -/
def filledOptions (paths context : String) : Options := [
  ("ENFORCE_POLICY", .text Options.defaultPolicy), ("ENFORCE", .text "1"), ("CERT_CONTAINS", .null),
  ("PATHS", .text paths), ("CONTEXT_PATH", .text context), ("CERT_HEADER", .null)]

section Filled
variable {secret mount paths context : String} {library : String → Except Failure Value}

theorem auth_filled (ne : paths ≠ "") :
    (Settings.ofEnvironment (EnvFile.filledVariables secret mount paths context) library).auth? =
      some (.mapping (filledOptions paths context)) := by
  have given : Deployment.unlessBlank (EnvFile.filledVariables secret mount paths context)
      "X509_PATHS" = .text paths := by
    show (if paths.isEmpty then Value.null else .text paths) = _
    simp [ne]
  show some (Value.mapping (Deployment.authOf _)) = _
  unfold Deployment.authOf
  rw [given]
  rfl

theorem mount_filled :
    (Settings.ofEnvironment (EnvFile.filledVariables secret mount paths context) library).mount =
      .text mount := by
  show mountOrNothing (if mount.isEmpty then .null else .text mount) = _
  by_cases h : mount = ""
  · subst h
    rfl
  · have given : mount.isEmpty = false := by simpa using h
    rw [given]
    exact mountOrNothing_text mount

end Filled

section Configured
variable {s : Settings} {paths context : String}

theorem policyFlag_filled (given : s.auth? = some (.mapping (filledOptions paths context)))
    (tally : Tally) : s.policyFlag.answer tally = .ok true := by
  obtain ⟨auth?, mountPath, environment, library⟩ := s
  cases given
  rfl

/-- The paths are enforced behind the context path. -/
theorem configuration_filled (given : s.auth? = some (.mapping (filledOptions paths context)))
    (bare : EnvFile.Bare paths) (tally : Tally) :
    s.configuration.answer tally =
      .ok (.enforcing .null (some ((Text.splitText ',' paths).map (context ++ ·)))) := by
  obtain ⟨options, found, offered⟩ :=
    Settings.options_of_mapping (Settings.overrides_of_mapping given)
  have start : options.start = .ok ⟨.null, .text paths, .text context⟩ :=
    start_eq_ok_iff.2 ⟨offered.other _ (by decide), offered.other _ (by decide), offered.context⟩
  have trimmed : ∀ piece ∈ Text.splitText ',' paths, Text.trim piece = piece := fun piece mem =>
    trim_bare fun c inside => bare c (mem_of_mem_splitText mem inside)
  have scope : StartOptions.scope ⟨.null, .text paths, .text context⟩ = _ :=
    scope_of_trimmed rfl rfl trimmed context
  unfold Settings.configuration
  rw [Asking.answer_bind, Asking.answer_liftM, Asking.after_liftM, found, ok_bind]
  exact (configureFrom_eq_ok_iff found).2
    ⟨_, start, .inr ⟨policyFlag_filled given tally, _, scope, rfl⟩⟩

end Configured

theorem map_append_eq_iff {starts : List String} (ne : starts ≠ []) {context mount : String} :
    starts.map (context ++ ·) = starts.map (mount ++ ·) ↔ context = mount := by
  obtain ⟨start, mem⟩ := List.exists_mem_of_ne_nil starts ne
  constructor
  · intro same
    exact (String.append_left_inj start).1 (List.map_inj_left.1 same start mem)
  · rintro rfl
    rfl

/-- What a new file leads to when a mount path, paths and a context path are filled in. The file
loads, and enforcement is on for the paths behind the context path of the file. A context path that
is left blank puts nothing in front of them, and they are behind the mount path exactly if the
context path repeats it. -/
theorem configuration_of_newFile {paint : Paint} {secret path spot file : String} {d : Directory}
    (written : (Command.generate paint secret path true d).2.files = d.files ++ [(spot, file)])
    {mount paths context : String} (hsecret : EnvFile.Bare secret) (hmount : EnvFile.Bare mount)
    (hpaths : EnvFile.Bare paths) (hcontext : EnvFile.Bare context) (ne : paths ≠ "")
    (library : String → Except Failure Value) (tally : Tally) :
    EnvFile.fill "X509_CONTEXT_PATH" "" file = file ∧
      ∃ env c starts,
        EnvFile.load [] (EnvFile.fill "FORCE_SCRIPT_NAME" mount (EnvFile.fill "X509_PATHS" paths
          (EnvFile.fill "X509_CONTEXT_PATH" context file))) = .ok env ∧
        (Settings.ofEnvironment env library).mount = .text mount ∧
        (Settings.ofEnvironment env library).configuration.answer tally = .ok c ∧
        c.enforce = .bool true ∧ c.enforcedPaths = .list (starts.map .text) ∧
        starts = (Text.splitText ',' paths).map (context ++ ·) ∧
        (starts = (Text.splitText ',' paths).map (mount ++ ·) ↔ context = mount) := by
  obtain rfl := writtenFile_eq written
  have some_entry : Text.splitText ',' paths ≠ [] := by
    apply List.ne_nil_of_length_pos
    rw [Text.length_splitText]
    exact Nat.succ_pos _
  exact ⟨EnvFile.fill_blank_context hsecret, _, _, _,
    EnvFile.load_fillNew hsecret hmount hpaths hcontext, mount_filled,
    configuration_filled (auth_filled ne) hpaths tally, rfl, rfl, rfl, map_append_eq_iff some_entry⟩

theorem configuration_of_reports :
    (Command.generate false "0a1b2c" ".env" true ⟨[], []⟩).2.files =
        [(".env", EnvFile.template "0a1b2c" true)] ∧
      ∃ env c, EnvFile.load [] (EnvFile.fill "FORCE_SCRIPT_NAME" "/app"
          (EnvFile.fill "X509_PATHS" "/reports,/admin" (EnvFile.fill "X509_CONTEXT_PATH" "/app"
            (EnvFile.template "0a1b2c" true)))) = .ok env ∧
        (Settings.ofEnvironment env emptyLibrary).configuration.answer [] = .ok c ∧
        c.enforcedPaths = .list [.text "/app/reports", .text "/app/admin"] := by
  have written : (Command.generate false "0a1b2c" ".env" true ⟨[], []⟩).2.files =
      [(".env", EnvFile.template "0a1b2c" true)] := by
    rfl
  have split : Text.splitText ',' "/reports,/admin" = ["/reports", "/admin"] := by decide
  obtain ⟨-, env, c, starts, loaded, -, configured, -, enforced, behind_context, -⟩ :=
    @configuration_of_newFile false "0a1b2c" ".env" ".env" _ ⟨[], []⟩ written "/app"
      "/reports,/admin" "/app" (by decide) (by decide) (by decide) (by decide) (by decide) emptyLibrary []
  refine ⟨written, env, c, loaded, configured, ?_⟩
  rw [enforced, behind_context, split]
  rfl

/-- With the mount path and the paths alone filled in, no path is behind the mount path. -/
theorem newFile_leaves_mount_out :
    ∃ env c, EnvFile.load [] (EnvFile.fill "FORCE_SCRIPT_NAME" "/app"
        (EnvFile.fill "X509_PATHS" "/reports,/admin" (EnvFile.template "0a1b2c" true))) = .ok env ∧
      (Settings.ofEnvironment env emptyLibrary).configuration.answer [] = .ok c ∧
      c.enforcedPaths = .list [.text "/reports", .text "/admin"] ∧
      c.enforcedPaths ≠ .list [.text "/app/reports", .text "/app/admin"] := by
  have hsecret : EnvFile.Bare "0a1b2c" := by decide
  have hpaths : EnvFile.Bare "/reports,/admin" := by decide
  have split : Text.splitText ',' "/reports,/admin" = ["/reports", "/admin"] := by decide
  have hmount : EnvFile.Bare "/app" := by decide
  have hcontext : EnvFile.Bare "" := by decide
  have loaded := EnvFile.load_fillNew hsecret hmount hpaths hcontext
  rw [EnvFile.fillNew, EnvFile.fill_blank_context hsecret] at loaded
  have enforced : Value.ofTexts? (some ((Text.splitText ',' "/reports,/admin").map ("" ++ ·))) =
      .list [.text "/reports", .text "/admin"] := by
    rw [split]
    rfl
  refine ⟨_, _, loaded, configuration_filled (auth_filled (by decide)) hpaths [], enforced, ?_⟩
  intro same
  exact absurd (enforced.symm.trans same) (by simp)

end CertGate
