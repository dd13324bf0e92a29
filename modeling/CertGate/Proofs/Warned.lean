import CertGate.Proofs.PathForms

/-!
# What the warnings about paths say of the gate

Advice reads the path option by rules of its own, before any gate is started. Still it speaks of the
paths that the gate will enforce: where it understands the option the gate does too, and it warns of
exactly those entries that do not begin with a slash behind the mount path.

* `Advice.Warns` : warnings that go with enforced paths, in their order;
* `warns_entries`, `filter_onOptions` : all warnings of their kind are those about the entries;
* `build_of_names` : a guard and the entries that its paths name;
* `warnings_of_settings` : the guard of settings and the warnings about them.
-/

namespace CertGate

/-- Enforced paths in their order, all behind one front, and the warnings about them: one for each that
goes on behind the front with anything but a slash, naming what it goes on with. -/
inductive Advice.Warns (front : String) : List String → List Advice → Prop
  | done : Warns front [] []
  | rooted (rest : String) {starts : List String} {advices : List Advice}
    (more : Warns front starts advices) : Warns front ((front ++ ("/" ++ rest)) :: starts) advices
  | relative {entry : String} {a : Advice} (bare : ∀ rest, entry ≠ "/" ++ rest)
    (id : a.id = "x509auth.W001")
    (text : a.text = "X509_AUTH['PATHS'] entry " ++ Text.quoted entry ++ " does not start with '/'")
    {starts : List String} {advices : List Advice} (more : Warns front starts advices) :
    Warns front ((front ++ entry) :: starts) (a :: advices)

namespace Advice

theorem warns_entries (front : String) (entries : List String) :
    Warns front (entries.map fun entry => front ++ Text.trim entry) (entries.flatMap onEntry) := by
  induction entries with
  | nil => exact .done
  | cons entry entries ih =>
    rw [List.map_cons, List.flatMap_cons]
    unfold onEntry
    dsimp only
    split
    · next rooted =>
      obtain ⟨rest, same⟩ := Text.startsText_iff.1 rooted
      rw [same]
      exact .rooted rest ih
    · next bare =>
      apply Warns.relative _ rfl rfl ih
      intro rest same
      exact bare (Text.startsText_iff.2 ⟨rest, same⟩)

theorem Warns.rooted_of_nil {front : String} {starts : List String} (warns : Warns front starts []) :
    ∀ start ∈ starts, ∃ rest, start = front ++ ("/" ++ rest) := by
  induction starts with
  | nil => nofun
  | cons start starts ih =>
    cases warns with
    | rooted rest more =>
      rw [List.forall_mem_cons]
      exact ⟨⟨rest, rfl⟩, ih more⟩

theorem filter_of_id {advices : List Advice} {id : String} (named : ∀ a ∈ advices, a.id = id)
    (name : String) :
    advices.filter (fun a => a.id = name) = if id = name then advices else [] := by
  split
  · next same =>
    apply List.filter_eq_self.2
    intro a mem
    simp [named a mem, same]
  · next other =>
    apply List.filter_eq_nil_iff.2
    intro a mem
    simp [named a mem, other]

/-- The warnings about entries are all there are of their kind. -/
theorem filter_onOptions {s : Settings} {options : Options} {policy paths header : Value} {entries : List String}
    {advices : List Advice} (asked : options.get "ENFORCE_POLICY" = .ok policy)
    (limits : options.get "PATHS" = .ok paths) (proxy : options.get "CERT_HEADER" = .ok header)
    (read : entries? paths = some entries) (given : onOptions s options = .ok advices) :
    advices.filter (fun a => a.id = "x509auth.W001") = entries.flatMap onEntry := by
  obtain ⟨first, last, onPolicy, onHeader, rfl⟩ := onOptions_eq_ok asked limits proxy given
  have about : onPaths paths = entries.flatMap onEntry := by
    unfold onPaths
    rw [read]
  have entry : ∀ a ∈ onPaths paths, a.id = "x509auth.W001" := by
    rw [about]
    intro a mem
    obtain ⟨entry, -, mem⟩ := List.mem_flatMap.1 mem
    exact id_of_mem_onEntry mem
  rw [List.filter_append, List.filter_append,
    filter_of_id (fun a mem => id_of_mem_onPolicy onPolicy mem), filter_of_id entry,
    filter_of_id (fun a mem => id_of_mem_onHeader onHeader mem), if_neg (by decide), if_pos rfl,
    if_neg (by decide), List.nil_append, List.append_nil, about]

end Advice

/-- A path option that is understood names entries, or stands for all paths. -/
theorem exists_names {paths : Value} (lists : paths.ListsPaths) :
    ∃ entries?, paths.Names entries? ∧ Advice.entries? paths = some (entries?.getD []) := by
  cases lists with
  | null => exact ⟨none, .all, rfl⟩
  | text s => exact ⟨_, .text s, rfl⟩
  | list entries => exact ⟨_, .list entries, entries?_of_names (.list entries)⟩
  | tuple entries => exact ⟨_, .tuple entries, entries?_of_names (.tuple entries)⟩

section Settings
variable {s : Settings} {context? mount? : Option String}

/-- The mount path stands in for a context path that is not given, and nothing for that. -/
theorem contextOr_of_texts {v? : Option Value} (context : v?.getD .null = .ofText? context?)
    (mount : s.mountPath = .ofText? mount?) :
    s.contextOr v? = .text (context?.getD (mount?.getD "")) := by
  have standing : s.mount = .text (mount?.getD "") := by
    show mountOrNothing s.mountPath = _
    rw [mount]
    cases mount? with
    | none => rfl
    | some m => exact mountOrNothing_text m
  cases context? with
  | none =>
    cases v? with
    | none => exact standing
    | some v =>
      obtain rfl : v = .null := context
      exact standing
  | some c =>
    cases v? with
    | none => cases context
    | some v =>
      obtain rfl : v = .text c := context
      rfl

/-- A guard that enforces puts the entries that its paths name behind the context path. -/
theorem build_of_names {options : Options} {paths : Value} {front : String}
    {entries? : Option (List String)} {tally : Tally} (found : s.options = .ok options)
    (on : s.policyFlag.answer tally = .ok true) (limits : options.lookup "PATHS" = some paths)
    (behind : options.lookup "CONTEXT_PATH" = some (.text front)) (named : paths.Names entries?) :
    ∃ header part, (Guard.build s).answer tally =
      .ok ⟨header, .ready (.enforcing part (startsOf front entries?))⟩ := by
  obtain ⟨header, proxy⟩ := exists_header found
  obtain ⟨⟨part, paths', root⟩, start⟩ := exists_start found
  obtain ⟨subject, limits', root'⟩ := start_eq_ok_iff.1 start
  obtain rfl : paths = paths' := Option.some.inj (limits.symm.trans limits')
  obtain rfl : root = .text front := Option.some.inj (root'.symm.trans behind)
  have scope := scope_of_names named (mountOrNothing_text front) part
  have configured := (configureFrom_eq_ok_iff found).2
    ⟨_, start, .inr ⟨on, _, scope, (on_textPaths _ _).symm⟩⟩
  exact ⟨header, part,
    build_eq_ok_iff.2 ⟨options, found, Options.get_eq_ok_iff.1 proxy, _, configured, rfl⟩⟩

/-- With the flag on, settings that are advised on without the warning that their paths are not
understood build a guard. What it enforces lies behind the context path, or else behind the mount path,
and the warnings about entries are those about what does not go on with a slash there; without any such
warning every path that is enforced is that front with a text behind it that begins with a slash. -/
theorem warnings_of_settings {entries : Options} (written : s.auth? = some (.mapping entries))
    (context : (entries.last? "CONTEXT_PATH").getD .null = .ofText? context?)
    (mount : s.mountPath = .ofText? mount?) {advices : List Advice} (given : advice s = .ok advices)
    (understood : ∀ a ∈ advices, a.id ≠ "x509auth.W003") {tally : Tally}
    (on : s.policyFlag.answer tally = .ok true) :
    ∃ options front header part starts?, s.options = .ok options ∧
      options.lookup "CONTEXT_PATH" = some (.text front) ∧ front = context?.getD (mount?.getD "") ∧
      (Guard.build s).answer tally = .ok ⟨header, .ready (.enforcing part starts?)⟩ ∧
      Advice.Warns front (starts?.getD []) (advices.filter fun a => a.id = "x509auth.W001") ∧
      ((∀ a ∈ advices, a.id ≠ "x509auth.W001") →
        ∀ start ∈ starts?.getD [], ∃ rest, start = front ++ ("/" ++ rest)) := by
  obtain ⟨options, found, offered⟩ :=
    Settings.options_of_mapping (Settings.overrides_of_mapping written)
  obtain ⟨front, same⟩ : ∃ front, front = context?.getD (mount?.getD "") := ⟨_, rfl⟩
  have behind : options.lookup "CONTEXT_PATH" = some (.text front) := by
    rw [offered.context, contextOr_of_texts context mount, same]
  obtain ⟨policy, asked⟩ := exists_policy found
  obtain ⟨paths, limits⟩ := exists_get found "PATHS" (by decide) rfl
  obtain ⟨header, proxy⟩ := exists_header found
  rw [advice_of_options found] at given
  have lists : paths.ListsPaths := by
    apply Classical.byContradiction
    intro unread
    obtain ⟨a, mem, named⟩ := (Advice.onOptions_warns_iff asked limits proxy given).2 unread
    exact understood a mem named
  obtain ⟨entries?, named, read⟩ := exists_names lists
  -- the start reads the same entries, and puts them behind the front
  obtain ⟨header', part, built⟩ :=
    build_of_names found on (Options.get_eq_ok_iff.1 limits) behind named
  have starts : (startsOf front entries?).getD [] =
      (entries?.getD []).map fun entry => front ++ Text.trim entry := by
    cases entries? <;> rfl
  have warns : Advice.Warns front ((startsOf front entries?).getD [])
      (advices.filter fun a => a.id = "x509auth.W001") := by
    rw [starts, Advice.filter_onOptions asked limits proxy read given]
    exact Advice.warns_entries front _
  refine ⟨options, front, header', part, _, found, behind, same, built, warns, ?_⟩
  intro quiet
  have nothing : advices.filter (fun a => a.id = "x509auth.W001") = [] := by
    apply List.filter_eq_nil_iff.2
    intro a mem
    simpa using quiet a mem
  rw [nothing] at warns
  exact warns.rooted_of_nil

/-- A path that begins with no slash is enforced all the same, behind the mount path as it is. -/
theorem warnings_of_bare_entry :
    let s : Settings := ⟨some (.mapping [("ENFORCE", .bool true), ("PATHS", .text "/reports, admin")]),
      .text "/app", [], emptyLibrary⟩
    advice s = .ok [Advice.relativePath "admin"] ∧ s.policyFlag.answer [] = .ok true ∧
      ∃ starts?, (Guard.build s).answer [] = .ok ⟨.null, .ready (.enforcing .null starts?)⟩ ∧
        starts? = some ["/app/reports", "/appadmin"] ∧
        Advice.Warns "/app" (starts?.getD []) [Advice.relativePath "admin"] := by
  intro s
  have given : advice s = .ok [Advice.relativePath "admin"] := by rfl
  have understood : ∀ a ∈ [Advice.relativePath "admin"], a.id ≠ "x509auth.W003" := by decide
  have built : (Guard.build s).answer [] =
      .ok ⟨.null, .ready (.enforcing .null (some ["/app/reports", "/appadmin"]))⟩ := by rfl
  obtain ⟨_, front, header, part, starts?, -, -, rfl, built', warns, -⟩ :=
    @warnings_of_settings s none (some "/app") _ rfl rfl rfl _ given understood [] rfl
  rw [built] at built'
  have same : starts? = some ["/app/reports", "/appadmin"] :=
    (enforcing_inj (Gate.ready_inj.1 (Guard.mk.inj (Except.ok.inj built')).2)).2.symm
  subst same
  exact ⟨given, rfl, _, built, rfl, warns⟩

end Settings
end CertGate
