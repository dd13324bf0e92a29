import CertGate.Proofs.Lifecycle
import CertGate.Proofs.Vouched

/-!
# Stricter options let no more requests pass

Two gates that enforce with different options are compared on one request. The fewer paths are enforced, and
the shorter the text that subjects have to contain, the more requests pass; not to name any path enforces all
of them, and not to name any text asks for none.

* `Value.Names`, `Config.Strict` : the configurations that text options have started, by their entries and
  their text (`Strict.eq_enforcing`), one for every provider with the flag on (`exists_strict`);
* `Chain.Texted` : the chains whose first record is a certificate or has a text for its subject. They are always
  decided (`isOk_of_texted`), and what holds of a text holds of its parts (`Vouched.of_part`);
* `forward_iff` : a request passes when it is off the entries or vouched for;
* `tightening` : the laws.
-/

namespace CertGate

/-! ## Options of texts -/

/-- The path options of some entries, in a text between commas or in a list or a tuple; nothing for all paths. -/
inductive Value.Names : Option (List String) → Value → Prop
  | all : Names none .null
  | text (s : String) : Names (some (Text.splitText ',' s)) (.text s)
  | list (entries : List String) : Names (some entries) (.list (entries.map .text))
  | tuple (entries : List String) : Names (some entries) (.tuple (entries.map .text))

/-- What entries enforce behind a mount path. -/
def startsOf (mount : String) (entries? : Option (List String)) : Option (List String) :=
  entries?.map fun entries => entries.map fun entry => mount ++ Text.trim entry

/-- A configuration that enforces and that text options have started, whatever provider was asked. A mount path
that is not given is none. -/
def Config.Strict (part? : Option String) (entries? : Option (List String)) (mount : String) (c : Config) : Prop :=
  c.isEnforcing = true ∧ ∃ s provider paths root tally, paths.Names entries? ∧ mountOrNothing root = .text mount ∧
    (Gate.uninitialized.start s provider ⟨.ofText? part?, paths, root⟩ tally).1.2 = .ready c

section Options
variable {part? : Option String} {entries? : Option (List String)} {paths root : Value} {mount : String} {c : Config}

theorem scope_of_names (named : paths.Names entries?) (rooted : mountOrNothing root = .text mount) (part : Value) :
    StartOptions.scope ⟨part, paths, root⟩ = .ok (textPaths (startsOf mount entries?)) := by
  unfold StartOptions.scope
  rw [rooted, ← mountOrNothing_text mount]
  cases named with
  | all => rfl
  | text s =>
    show some <$> enforcedPaths (.text s) (mountOrNothing (.text mount)) = _
    rw [enforcedPaths_of_texts rfl]
    rfl
  | list entries =>
    show some <$> enforcedPaths (.list _) (mountOrNothing (.text mount)) = _
    rw [enforcedPaths_of_texts rfl]
    rfl
  | tuple entries =>
    show some <$> enforcedPaths (.tuple _) (mountOrNothing (.text mount)) = _
    rw [enforcedPaths_of_texts rfl]
    rfl

theorem Config.Strict.eq_enforcing (strict : c.Strict part? entries? mount) :
    c = .enforcing (.ofText? part?) (startsOf mount entries?) := by
  obtain ⟨on, s, provider, paths, root, tally, named, rooted, ready⟩ := strict
  rcases configure_eq_ok_iff.1 (start_eq_ready_iff.1 ready) with ⟨-, rfl⟩ | ⟨-, starts?, scope, rfl⟩
  · cases on
  · rw [scope_of_names named rooted] at scope
    rw [← Except.ok.inj scope, on_textPaths]

/-- Options of texts start a gate with every provider that has the flag on. -/
theorem exists_strict {s : Settings} {provider : Value} {tally : Tally}
    (on : (resolveFlag s provider).answer tally = .ok true) (named : paths.Names entries?)
    (rooted : mountOrNothing root = .text mount) :
    ∃ c, (Gate.uninitialized.start s provider ⟨.ofText? part?, paths, root⟩ tally).1.2 = .ready c ∧
      c.Strict part? entries? mount := by
  have configured : (configure s provider ⟨.ofText? part?, paths, root⟩).answer tally =
      .ok (.enforcing (.ofText? part?) (startsOf mount entries?)) :=
    configure_eq_ok_iff.2 (.inr ⟨on, _, scope_of_names named rooted _, (on_textPaths _ _).symm⟩)
  have ready := start_eq_ready_iff.2 configured
  exact ⟨_, ready, rfl, s, provider, paths, root, tally, named, rooted, ready⟩

end Options

/-! ## Chains with a text for their subject -/

/-- A chain whose first record is the data of a certificate, or has a text for its subject. -/
inductive Chain.Texted : Chain → Prop
  | certificate (data : CertificateData) (rest : List Record) : Texted (.records (.certificate data :: rest))
  | attached {r : AttachedRecord} {s : String} (named : r.subject = .gives (.text s)) (rest : List Record) :
    Texted (.records (.attached r :: rest))

section Texted
variable {chain : Chain} {now : Timestamp}

theorem text_of_texted {leaf : Record} {rest : List Record}
    (texted : (Chain.records (leaf :: rest)).Texted) {subject : Value} (shown : leaf.subject = .ok subject) :
    ∃ s, subject = .text s := by
  cases texted with
  | certificate data =>
    obtain ⟨cert, -, shown⟩ := bind_eq_ok_iff.1 shown
    obtain ⟨s, -, rfl⟩ := map_eq_ok_iff.1 shown
    exact ⟨s, rfl⟩
  | @attached r s named =>
    have given : r.subject.get "subject_name" = .ok subject := shown
    rw [named] at given
    exact ⟨s, (Except.ok.inj given).symm⟩

/-- Where a text is looked for in a text, there is always a decision. -/
theorem isOk_of_texted (texted : chain.Texted) (part? : Option String) (starts? : Option (List String))
    (path : String) :
    ∃ v, (verdict (.enforcing (.ofText? part?) starts?) (.text path) chain now).result = .ok v := by
  have listed : chain.Listed := by cases texted <;> exact .records _
  rw [← on_textPaths, verdict_isOk_iff listed]
  rintro (⟨-, limited, met, unfit⟩ | ⟨-, -, rfl, -, asked, shown, unfit⟩)
  · exact not_unfit_of_reaches (reaches_textPaths starts? path) limited met unfit
  · obtain ⟨s, rfl⟩ := text_of_texted texted shown
    cases part? with
    | none => cases asked
    | some part => exact unfit ⟨part, rfl⟩

theorem Chain.Vouched.of_part {whole before part after : String} (cut : whole = before ++ part ++ after)
    (texted : chain.Texted) (vouched : chain.Vouched (some whole) now) : chain.Vouched (some part) now := by
  obtain ⟨valid, named⟩ := vouched
  refine .intro valid ?_
  rintro _ ⟨⟩
  obtain ⟨subject, shown, holds⟩ := named whole rfl
  obtain ⟨s, rfl⟩ := text_of_texted texted shown
  refine ⟨_, shown, ?_⟩
  cases holds with
  | text front back =>
    have regroup : front ++ whole ++ back = (front ++ before) ++ part ++ (after ++ back) := by
      rw [cut]
      simp only [String.append_assoc]
    rw [regroup]
    exact .text _ _

theorem Chain.Vouched.of_none {part? : Option String} (vouched : chain.Vouched part? now) :
    chain.Vouched none now := by
  obtain ⟨valid, -⟩ := vouched
  exact .intro valid nofun

end Texted

/-! ## Requests -/

/-- The decision of a gate that is ready. -/
def Config.decides (c : Config) (path : String) (chain : Chain) (now : Timestamp) : Except Failure Verdict :=
  ((Gate.ready c).evaluate (.text path) chain now).result

section Requests
variable {part? : Option String} {entries? : Option (List String)} {mount path : String} {c c' : Config}
  {chain : Chain} {now : Timestamp}

/-- A request passes when it is vouched for, if its path is enforced at all. -/
theorem forward_iff (strict : c.Strict part? entries? mount) :
    c.decides path chain now = .ok .forward ↔
      (covers (startsOf mount entries?) path = true → chain.Vouched part? now) := by
  rw [strict.eq_enforcing]
  show (verdict _ _ _ _).result = _ ↔ _
  rw [result_verdict_enforcing]
  cases covers (startsOf mount entries?) path with
  | false => simp
  | true =>
    have asked : (Config.enforcing (.ofText? part?) (startsOf mount entries?)).certContains = .ofText? part? := rfl
    rw [if_pos rfl, ← accepts_eq_true_iff asked]
    cases (accepts (.enforcing (.ofText? part?) (startsOf mount entries?)) chain now).result with
    | error f => simp
    | ok accepted => cases accepted <;> simp

theorem covers_of_subset {fewer more : List String} (sub : ∀ entry ∈ fewer, entry ∈ more)
    (inside : covers (startsOf mount (some fewer)) path = true) :
    covers (startsOf mount (some more)) path = true := by
  obtain ⟨_, mem, begins⟩ := List.any_eq_true.1 inside
  obtain ⟨entry, given, rfl⟩ := List.mem_map.1 mem
  exact List.any_eq_true.2 ⟨_, List.mem_map_of_mem (sub entry given), begins⟩

/-- A request that passes where more paths are enforced passes where fewer are. -/
theorem forward_of_subset {fewer more : List String} (sub : ∀ entry ∈ fewer, entry ∈ more)
    (strict : c.Strict part? (some more) mount) (loose : c'.Strict part? (some fewer) mount)
    (passes : c.decides path chain now = .ok .forward) : c'.decides path chain now = .ok .forward := by
  rw [forward_iff loose]
  intro inside
  exact (forward_iff strict).1 passes (covers_of_subset sub inside)

theorem eq_of_forward_iff (texted : chain.Texted) (strict : c.Strict part? entries? mount)
    {part?' : Option String} {entries?' : Option (List String)} (strict' : c'.Strict part?' entries?' mount)
    (alike : c.decides path chain now = .ok .forward ↔ c'.decides path chain now = .ok .forward) :
    c.decides path chain now = c'.decides path chain now := by
  obtain ⟨v, decided⟩ : ∃ v, c.decides path chain now = .ok v := by
    rw [strict.eq_enforcing]
    exact isOk_of_texted texted part? _ path
  obtain ⟨v', decided'⟩ : ∃ v, c'.decides path chain now = .ok v := by
    rw [strict'.eq_enforcing]
    exact isOk_of_texted texted part?' _ path
  cases v with
  | forward => rw [decided, alike.1 decided]
  | reject =>
    cases v' with
    | reject => rw [decided, decided']
    | forward =>
      rw [alike.2 decided'] at decided
      cases decided

end Requests

/-- For a request with a certificate, or with a text for its subject, and two gates that enforce behind one mount
path: the order of the entries and their repetitions do not matter; what passes under entries passes under the
first of them, and what passes where every path is enforced passes under any entries; what passes with a text
passes with every part of it, and without one. -/
theorem tightening {chain : Chain} (texted : chain.Texted) (mount path : String) (now : Timestamp) :
    (∀ (part? : Option String) (entries entries' : List String) (c c' : Config),
      c.Strict part? (some entries) mount → c'.Strict part? (some entries') mount →
        (∀ entry, entry ∈ entries ↔ entry ∈ entries') →
          c.decides path chain now = c'.decides path chain now) ∧
    (∀ (part? : Option String) (entries others : List String) (c c' : Config),
      c.Strict part? (some (entries ++ others)) mount → c'.Strict part? (some entries) mount →
        c.decides path chain now = .ok .forward → c'.decides path chain now = .ok .forward) ∧
    (∀ (part? : Option String) (entries : List String) (c c' : Config),
      c.Strict part? none mount → c'.Strict part? (some entries) mount →
        c.decides path chain now = .ok .forward → c'.decides path chain now = .ok .forward) ∧
    (∀ (before part after : String) (entries? : Option (List String)) (c c' : Config),
      c.Strict (some (before ++ part ++ after)) entries? mount → c'.Strict (some part) entries? mount →
        c.decides path chain now = .ok .forward → c'.decides path chain now = .ok .forward) ∧
    ∀ (whole : String) (entries? : Option (List String)) (c c' : Config),
      c.Strict (some whole) entries? mount → c'.Strict none entries? mount →
        c.decides path chain now = .ok .forward → c'.decides path chain now = .ok .forward := by
  refine ⟨?_, ?_, ?_, ?_, ?_⟩
  · intro part? entries entries' c c' strict strict' same
    apply eq_of_forward_iff texted strict strict'
    constructor
    · exact forward_of_subset (fun entry mem => (same entry).2 mem) strict strict'
    · exact forward_of_subset (fun entry mem => (same entry).1 mem) strict' strict
  · intro part? entries others c c' strict loose passes
    exact forward_of_subset (fun entry mem => List.mem_append_left others mem) strict loose passes
  · intro part? entries c c' strict loose passes
    rw [forward_iff loose]
    intro _
    exact (forward_iff strict).1 passes rfl
  · intro before part after entries? c c' strict loose passes
    rw [forward_iff loose]
    intro inside
    exact ((forward_iff strict).1 passes inside).of_part rfl texted
  · intro whole entries? c c' strict loose passes
    rw [forward_iff loose]
    intro inside
    exact ((forward_iff strict).1 passes inside).of_none

/-- A configuration below `/app`. -/
def configBelow (part? : Option String) (entries? : Option (List String)) : Config :=
  .enforcing (.ofText? part?) (startsOf "/app" entries?)

theorem strict_configBelow (part? : Option String) (entries? : Option (List String)) :
    (configBelow part? entries?).Strict part? entries? "/app" := by
  have on : (resolveFlag bareSettings alwaysPolicy).answer [] = .ok true := rfl
  obtain ⟨paths, named⟩ : ∃ paths : Value, paths.Names entries? := by
    cases entries? with
    | none => exact ⟨_, .all⟩
    | some entries => exact ⟨_, .list entries⟩
  obtain ⟨c, -, strict⟩ := @exists_strict part? entries? paths _ _ _ _ _ on named (mountOrNothing_text "/app")
  rw [strict.eq_enforcing] at strict
  exact strict

/-- A record that is vouched for passes everywhere, and so it does under options that are less strict. -/
theorem tightening_recordNamed :
    let chain := Chain.records [recordNamed (.text "CN=a,OU=Eng")]
    let now : Timestamp := .universal ⟨⟨2024, 1, 1, by decide⟩, 0, 0⟩
    let decided part? entries? := (configBelow part? entries?).decides "/app/admin" chain now
    chain.Texted ∧
      decided (some "OU=Eng") (some ["/reports", "/admin"]) =
        decided (some "OU=Eng") (some ["/admin", "/reports", "/admin"]) ∧
      decided (some "OU=Eng") none = .ok .forward ∧
      decided (some "OU=Eng") (some ["/reports", "/admin"]) = .ok .forward ∧
      decided (some "OU=Eng") (some ["/reports"]) = .ok .forward ∧
      decided (some "Eng") none = .ok .forward ∧ decided none none = .ok .forward := by
  intro chain now decided
  have texted : chain.Texted := .attached rfl []
  have everywhere : decided (some "OU=Eng") none = .ok .forward := by
    rw [forward_iff (strict_configBelow _ _)]
    intro _
    refine .intro rfl ?_
    rintro _ ⟨⟩
    exact ⟨_, rfl, .text "CN=a," ""⟩
  obtain ⟨same, first, any, part, bare⟩ := tightening texted "/app" "/app/admin" now
  have both := any _ ["/reports", "/admin"] _ _ (strict_configBelow _ _) (strict_configBelow _ _) everywhere
  refine ⟨texted, ?_, everywhere, both, ?_, ?_, ?_⟩
  · apply same _ ["/reports", "/admin"] _ _ _ (strict_configBelow _ _) (strict_configBelow _ _)
    intro entry
    simp only [List.mem_cons, List.not_mem_nil, or_false]
    constructor
    · rintro (reports | admin)
      · exact .inr (.inl reports)
      · exact .inl admin
    · rintro (admin | reports | admin)
      · exact .inr admin
      · exact .inl reports
      · exact .inr admin
  · exact first _ ["/reports"] ["/admin"] _ _ (strict_configBelow _ _) (strict_configBelow _ _) both
  · exact part "OU=" "Eng" "" none _ _ (strict_configBelow _ _) (strict_configBelow _ _) everywhere
  · exact bare _ _ _ _ (strict_configBelow _ _) (strict_configBelow _ _) everywhere

end CertGate
