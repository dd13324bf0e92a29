import CertGate.Proofs.Lifecycle

/-!
# Flags and their words

A provider is asked for the flag with one call. What the call gives is a flag if it is a truth value or a text that is
one of nine words, in letters of either case and with blanks around it, and nothing else is: a value does not become a
flag by counting as given, nor a text by a letter beyond ASCII whose lower case is one of ASCII.

* `Text.Spells`, `Value.Means` : the texts that spell a word, and the flag that a value means;
* `Text.lower_trim_eq_iff` : for a plain word, trimming and lower case find the texts that spell it;
* `Flag.read_eq_ok_iff`, `Flag.read_eq_error_iff` : what is read of a value;
* `Value.Reads`, `Settings.Flags`, `Settings.Tells` : what is made of a value that is found in some source, among the
  options of the settings, or in a variable;
* `Value.Returns`, `Value.Answers` : what calling a value comes to, and what asking a provider comes to, with the key
  of the script that is played. Whoever answers is asked once (`asked?_of_answers`, with `Asking.Plays`), and whoever
  can be asked answers (`answers_of_asked?`);
* `resolveFlag_exact` : the flag of a provider is what the answer to the one call means.
-/

namespace CertGate

/-! ## Words -/

/-- A text that is a word but for blanks at its two ends and the case of letters of ASCII. -/
def Text.Spells (word s : String) : Prop :=
  ∃ before core after : List Char, s.toList = before ++ core ++ after ∧ (∀ c ∈ before, isBlank c = true) ∧
    (∀ c ∈ after, isBlank c = true) ∧ core.map Char.toLower = word.toList

/-- The flag that a value means. -/
inductive Value.Means : Value → Bool → Prop
  | flag (b : Bool) : Means (.bool b) b
  | on {word s : String} (mem : word ∈ ["1", "true", "yes", "on"]) (spelt : Text.Spells word s) : Means (.text s) true
  | off {word s : String} (mem : word ∈ ["0", "false", "no", "off", ""]) (spelt : Text.Spells word s) :
    Means (.text s) false

namespace Text
variable {word s : String}

theorem toLower_of_isBlank {c : Char} (blank : isBlank c = true) : c.toLower = c := by
  refine toLower_of_not_capital fun capital => ?_
  simp only [isBlank, Bool.or_eq_true, Bool.and_eq_true, decide_eq_true_eq, beq_iff_eq] at blank
  omega

/-- A word of solid characters is spelt by what is left of a text between its blanks. -/
theorem spells_iff_of_solid (solid : ∀ d ∈ word.toList, isBlank d = false) :
    Spells word s ↔ (trim s).toList.map Char.toLower = word.toList := by
  rw [toList_trim]
  constructor
  · rintro ⟨before, core, after, parts, front, back, same⟩
    have bare : ∀ c ∈ core, isBlank c = false := by
      intro c mem
      cases blank : isBlank c with
      | false => rfl
      | true =>
        have inside : c ∈ word.toList := by
          rw [← same, ← toLower_of_isBlank blank]
          exact List.mem_map_of_mem mem
        rw [← blank, solid c inside]
    rw [parts, trimBy_surrounded front back, trimBy_eq_self, same]
    · exact fun c first => bare c (List.mem_of_mem_head? first)
    · exact fun c last => bare c (List.mem_of_mem_getLast? last)
  · intro same
    obtain ⟨before, after, front, back, parts⟩ := exists_eq_trimBy isBlank s.toList
    exact ⟨before, _, after, parts, front, back, same⟩

/-- Trimming and lower case find the texts that spell a word, if neither can take anything else for it. -/
theorem lower_trim_eq_iff
    (plain : ∀ d ∈ word.toList, isBlank d = false ∧ d.toNat < 128 ∧ d ≠ 'k' ∧ d ≠ 'i') :
    lower (trim s) = word ↔ Spells word s := by
  rw [spells_iff_of_solid fun d mem => (plain d mem).1,
    ← flatMap_lowerChar_eq_iff fun d mem => (plain d mem).2, ← toList_lower, String.toList_inj]

/-- A text that spells a word of ASCII is of ASCII itself, blanks apart. -/
theorem Spells.ascii (spelt : Spells word s) (ascii : ∀ d ∈ word.toList, d.toNat < 128) :
    ∀ c ∈ s.toList, isBlank c = true ∨ c.toNat < 128 := by
  obtain ⟨before, core, after, parts, front, back, same⟩ := spelt
  intro c mem
  rw [parts, List.mem_append, List.mem_append] at mem
  rcases mem with (mem | mem) | mem
  · exact .inl (front c mem)
  · have lower : c.toLower ∈ word.toList := by
      rw [← same]
      exact List.mem_map_of_mem mem
    exact .inr (ascii_of_toLower (ascii _ lower))
  · exact .inl (back c mem)

end Text

namespace Flag
variable {s source : String} {v : Value} {b : Bool} {f : Failure}

/-- No word for a flag has blanks in it, a letter beyond ASCII, or one of the two that are the lower case of such. -/
theorem plain_words : ∀ word ∈ onWords ++ offWords, ∀ d ∈ word.toList,
    Text.isBlank d = false ∧ d.toNat < 128 ∧ d ≠ 'k' ∧ d ≠ 'i' := by
  have table : ∀ word ∈ onWords ++ offWords,
      (word.toList.all fun d => !Text.isBlank d && d.toNat < 128 && d != 'k' && d != 'i') = true := by
    decide +kernel
  intro word mem d inside
  simpa [and_assoc] using List.all_eq_true.1 (table word mem) d inside

theorem lower_trim_mem_iff {words : List String} (sub : words ⊆ onWords ++ offWords) :
    Text.lower (Text.trim s) ∈ words ↔ ∃ word ∈ words, Text.Spells word s := by
  constructor
  · exact fun mem => ⟨_, mem, (Text.lower_trim_eq_iff (plain_words _ (sub mem))).1 rfl⟩
  · rintro ⟨word, mem, spelt⟩
    rwa [(Text.lower_trim_eq_iff (plain_words _ (sub mem))).2 spelt]

theorem ofWord?_eq_some_iff : ofWord? s = some b ↔ (Value.text s).Means b := by
  have on := @lower_trim_mem_iff s onWords (List.subset_append_left _ _)
  have off := @lower_trim_mem_iff s offWords (List.subset_append_right _ _)
  have disjoint : ∀ word ∈ onWords, word ∉ offWords := by decide
  unfold ofWord?
  constructor
  · intro found
    dsimp only at found
    split at found
    · next mem =>
      cases found
      obtain ⟨word, mem, spelt⟩ := on.1 mem
      exact .on mem spelt
    · split at found
      · next mem =>
        cases found
        obtain ⟨word, mem, spelt⟩ := off.1 mem
        exact .off mem spelt
      · cases found
  · rintro (_ | ⟨mem, spelt⟩ | ⟨mem, spelt⟩)
    · exact if_pos (on.2 ⟨_, mem, spelt⟩)
    · have mem := off.2 ⟨_, mem, spelt⟩
      dsimp only
      rw [if_neg fun both => disjoint _ both mem, if_pos mem]

theorem read_of_means (means : v.Means b) : read source v = .ok b := by
  cases v with
  | bool flag =>
    cases means
    rfl
  | text s =>
    simp only [read, ofWord?_eq_some_iff.2 means]
  | _ => cases means

theorem read_of_meaningless (meaningless : ∀ b, ¬ v.Means b) : read source v = .error (.unknownFlag source v.show) := by
  cases v with
  | bool flag => exact absurd (.flag flag) (meaningless flag)
  | text s =>
    have unknown : ofWord? s = none := by
      cases found : ofWord? s with
      | none => rfl
      | some b => exact absurd (ofWord?_eq_some_iff.1 found) (meaningless b)
    simp only [read, unknown]
  | _ => rfl

theorem read_eq_ok_iff : read source v = .ok b ↔ v.Means b := by
  refine ⟨fun made => ?_, read_of_means⟩
  by_cases meant : ∃ b, v.Means b
  · obtain ⟨b', means⟩ := meant
    rw [read_of_means means] at made
    cases made
    exact means
  · rw [read_of_meaningless fun b means => meant ⟨b, means⟩] at made
    cases made

theorem read_eq_error_iff : read source v = .error f ↔ (∀ b, ¬ v.Means b) ∧ f = .unknownFlag source v.show := by
  constructor
  · intro fails
    have meaningless : ∀ b, ¬ v.Means b := by
      intro b means
      rw [read_of_means means] at fails
      cases fails
    rw [read_of_meaningless meaningless, Except.error.injEq] at fails
    exact ⟨meaningless, fails.symm⟩
  · rintro ⟨meaningless, rfl⟩
    exact read_of_meaningless meaningless

end Flag

/-- A text that means a flag is of ASCII, blanks apart. -/
theorem Value.Means.ascii {s : String} {b : Bool} (means : (Value.text s).Means b) :
    ∀ c ∈ s.toList, Text.isBlank c = true ∨ c.toNat < 128 := by
  obtain _ | ⟨mem, spelt⟩ | ⟨mem, spelt⟩ := means
  · exact spelt.ascii fun d inside => (Flag.plain_words _ (List.mem_append_left _ mem) d inside).2.1
  · exact spelt.ascii fun d inside => (Flag.plain_words _ (List.mem_append_right _ mem) d inside).2.1

/-! ## The one call -/

/-- What finding a value in some source comes to. -/
inductive Value.Reads (source : String) (v : Value) : Except Failure Value → Prop
  | flag {b : Bool} (means : v.Means b) : Reads source v (.ok (.bool b))
  | unknown (meaningless : ∀ b, ¬ v.Means b) : Reads source v (.error (.unknownFlag source v.show))

/-- What the settings are read as. Without a flag among the options it is off. -/
inductive Settings.Flags (s : Settings) : Except Failure Value → Prop
  | mapping {entries : List (String × Value)} {r : Except Failure Value} (options : s.overrides = .mapping entries)
    (reads : ((entries.lookup "ENFORCE").getD (.bool false)).Reads "X509_AUTH[\"ENFORCE\"]" r) : Flags s r
  | unmapped (odd : ∀ entries, s.overrides ≠ .mapping entries) :
    Flags s (.error (.missingAttribute s.overrides.typeName "get"))

/-- What a variable of the environment is read as. A default that stands in for it is not read here. -/
inductive Settings.Tells (s : Settings) (name : String) (default : Value) : Except Failure Value → Prop
  | unset (missing : s.variable? name = none) : Tells s name default (.ok default)
  | set {value : String} {r : Except Failure Value} (found : s.variable? name = some value)
    (reads : (Value.text value).Reads ("$" ++ name) r) : Tells s name default r

/-- What calling a value without arguments comes to, with the key of the script that it plays. -/
inductive Value.Returns (tally : Tally) : Value → Option Nat → Except Failure Value → Prop
  | script (key : Nat) (answers : List Answer) :
    Returns tally (.provider (.callable key answers)) (some key) (Answer.nth answers (tally.count key)).result
  | function (name : String) (answer : Answer) : Returns tally (.provider (.function name answer)) none answer.result
  | type (shown : String) (made asked : Answer) : Returns tally (.provider (.type shown made asked)) none made.result

/-- What asking a provider for the flag comes to, with the key of the script that is played. It is asked by its own
question if it has one, or by what stands in the place of the question, and is called otherwise. -/
inductive Value.Answers (s : Settings) (tally : Tally) : Value → Option Nat → Except Failure Value → Prop
  | fixed (v : Value) : Answers s tally (.provider (.fixed v)) none (.ok v)
  | settings {r : Except Failure Value} (flags : s.Flags r) : Answers s tally (.provider .fromSettings) none r
  | environment {name : String} {default : Value} {r : Except Failure Value} (tells : s.Tells name default r) :
    Answers s tally (.provider (.fromEnvironment name default)) none r
  | strategy (key : Nat) (answers : List Answer) :
    Answers s tally (.provider (.strategy key answers)) (some key) (Answer.nth answers (tally.count key)).result
  | held {v : Value} {key? : Option Nat} {r : Except Failure Value} (returns : v.Returns tally key? r) :
    Answers s tally (.provider (.holder v)) key? r
  | misheld {v : Value} (something : v ≠ .null) (uncallable : ∀ key? r, ¬ v.Returns tally key? r) :
    Answers s tally (.provider (.holder v)) none (.error (.notCallable v.typeName))
  | type (shown : String) (made asked : Answer) :
    Answers s tally (.provider (.type shown made asked)) none asked.result
  | called {v : Value} {key? : Option Nat} {r : Except Failure Value}
    (other : ∀ shown made asked, v ≠ .provider (.type shown made asked)) (returns : v.Returns tally key? r) :
    Answers s tally v key? r

section Readings
variable {s : Settings} {source name : String} {v default : Value} {r : Except Failure Value}

theorem bind_of_reads (reads : v.Reads source r) : (Flag.read source v >>= fun b => pure (.bool b)) = r := by
  cases reads with
  | flag means =>
    rw [Flag.read_of_means means]
    rfl
  | unknown meaningless =>
    rw [Flag.read_of_meaningless meaningless]
    rfl

theorem exists_reads (source : String) (v : Value) : ∃ r, v.Reads source r := by
  by_cases meant : ∃ b, v.Means b
  · obtain ⟨b, means⟩ := meant
    exact ⟨_, .flag means⟩
  · exact ⟨_, .unknown fun b means => meant ⟨b, means⟩⟩

theorem flag_of_flags (flags : s.Flags r) : s.flag.map .bool = r := by
  unfold Settings.flag
  cases flags with
  | mapping options reads =>
    rw [options]
    exact bind_of_reads reads
  | unmapped odd =>
    split
    · next options => exact absurd options (odd _)
    · rfl

theorem exists_flags (s : Settings) : ∃ r, s.Flags r := by
  by_cases mapping : ∃ entries, s.overrides = .mapping entries
  · obtain ⟨entries, options⟩ := mapping
    obtain ⟨r, reads⟩ := exists_reads _ _
    exact ⟨r, .mapping options reads⟩
  · exact ⟨_, .unmapped fun entries options => mapping ⟨entries, options⟩⟩

theorem environmentFlag_of_tells (tells : s.Tells name default r) : s.environmentFlag name default = r := by
  unfold Settings.environmentFlag
  cases tells with
  | unset missing => rw [missing]
  | set found reads =>
    rw [found]
    exact bind_of_reads reads

theorem exists_tells (s : Settings) (name : String) (default : Value) : ∃ r, s.Tells name default r := by
  cases found : s.variable? name with
  | none => exact ⟨_, .unset found⟩
  | some value =>
    obtain ⟨r, reads⟩ := exists_reads ("$" ++ name) (.text value)
    exact ⟨r, .set found reads⟩

end Readings

section Call
variable {s : Settings} {tally : Tally} {v provider : Value} {key? : Option Nat} {r : Except Failure Value}
  {ask : Asking Value}

/-- An operation that comes to a result and plays at most one script, once. -/
def Asking.Plays (ask : Asking Value) (tally : Tally) (key? : Option Nat) (r : Except Failure Value) : Prop :=
  ask.answer tally = r ∧ ask.after tally = key?.toList ++ tally

theorem plays_script (key : Nat) (answers : List Answer) :
    (Asking.script key answers).Plays tally (some key) (Answer.nth answers (tally.count key)).result := by
  refine ⟨?_, after_script key answers tally⟩
  unfold Asking.answer Asking.script
  cases Answer.nth answers (tally.count key) <;> rfl

theorem call?_of_returns (returns : v.Returns tally key? r) : ∃ ask, v.call? = some ask ∧ ask.Plays tally key? r := by
  cases returns with
  | script key answers => exact ⟨_, rfl, plays_script key answers⟩
  | function | type => exact ⟨_, rfl, rfl, rfl⟩

theorem returns_of_call? (call : v.call? = some ask) (tally : Tally) : ∃ key? r, v.Returns tally key? r := by
  unfold Value.call? at call
  split at call
  · next key answers => exact ⟨_, _, .script key answers⟩
  · next name answer => exact ⟨_, _, .function name answer⟩
  · next shown made asked => exact ⟨_, _, .type shown made asked⟩
  · cases call

theorem question?_of_something (something : v ≠ .null) :
    (Value.provider (.holder v)).question? s = some v.call := by
  have given : v.isNull = false := by
    cases v with
    | null => exact absurd rfl something
    | _ => rfl
  unfold Value.question?
  dsimp only
  rw [given]
  rfl

theorem asked?_of_answers (answers : provider.Answers s tally key? r) :
    ∃ ask, provider.asked? s = some ask ∧ ask.Plays tally key? r := by
  unfold Value.asked?
  cases answers with
  | fixed v => exact ⟨_, rfl, rfl, rfl⟩
  | settings flags => exact ⟨_, rfl, flag_of_flags flags, rfl⟩
  | environment tells => exact ⟨_, rfl, environmentFlag_of_tells tells, rfl⟩
  | strategy key answers => exact ⟨_, rfl, plays_script key answers⟩
  | @held v _ _ returns =>
    obtain ⟨ask, call, plays⟩ := call?_of_returns returns
    have something : v ≠ .null := by
      rintro rfl
      cases returns
    rw [question?_of_something something, Value.call, call]
    exact ⟨ask, rfl, plays⟩
  | @misheld v something uncallable =>
    have call : v.call? = none := by
      cases call : v.call? with
      | none => rfl
      | some ask =>
        obtain ⟨key?, r, returns⟩ := returns_of_call? call tally
        exact absurd returns (uncallable key? r)
    rw [question?_of_something something, Value.call, call]
    exact ⟨_, rfl, rfl, rfl⟩
  | type shown made asked => exact ⟨_, rfl, rfl, rfl⟩
  | called other returns =>
    obtain ⟨ask, call, plays⟩ := call?_of_returns returns
    -- nothing else that can be called has a question of its own
    cases returns with
    | script | function => exact ⟨ask, call, plays⟩
    | type shown made asked => exact absurd rfl (other shown made asked)

theorem answers_of_asked? (asked : provider.asked? s = some ask) (tally : Tally) :
    ∃ key? r, provider.Answers s tally key? r := by
  unfold Value.asked? at asked
  cases own : provider.question? s with
  | none =>
    rw [own] at asked
    obtain ⟨key?, r, returns⟩ := returns_of_call? asked tally
    refine ⟨key?, r, .called ?_ returns⟩
    rintro shown made asked rfl
    cases own
  | some ask' =>
    unfold Value.question? at own
    split at own
    · exact ⟨_, _, .fixed _⟩
    · obtain ⟨r, flags⟩ := exists_flags s
      exact ⟨_, r, .settings flags⟩
    · next name default =>
      obtain ⟨r, tells⟩ := exists_tells s name default
      exact ⟨_, r, .environment tells⟩
    · exact ⟨_, _, .strategy _ _⟩
    · next v =>
      have something : v ≠ .null := by
        rintro rfl
        cases own
      by_cases callable : ∃ key? r, v.Returns tally key? r
      · obtain ⟨key?, r, returns⟩ := callable
        exact ⟨key?, r, .held returns⟩
      · exact ⟨_, _, .misheld something fun key? r returns => callable ⟨key?, r, returns⟩⟩
    · exact ⟨_, _, .type _ _ _⟩
    · cases own

/-- The flag of a provider is what the answer to the one call means. An answer that means none, and a provider that
can be neither asked nor called, are failures of the policy; a call that fails is no answer, and fails as it does. -/
theorem resolveFlag_exact (s : Settings) (provider : Value) (tally : Tally) :
    (∀ key? r, provider.Answers s tally key? r →
      (resolveFlag s provider).after tally = key?.toList ++ tally ∧
      (∀ f, r = .error f → (resolveFlag s provider).answer tally = .error f) ∧
      ∀ v, r = .ok v →
        (∀ b, (resolveFlag s provider).answer tally = .ok b ↔ v.Means b) ∧
        ∀ f, (resolveFlag s provider).answer tally = .error f ↔
          (∀ b, ¬ v.Means b) ∧ f = .unknownFlag provider.show v.show ∧ f.kind = .policy) ∧
    ((∀ key? r, ¬ provider.Answers s tally key? r) →
      (resolveFlag s provider).after tally = tally ∧
      ∃ f, (resolveFlag s provider).answer tally = .error f ∧ f = .notProvider provider.show ∧ f.kind = .policy) ∧
    ∀ text b, (Value.text text).Means b → ∀ c ∈ text.toList, Text.isBlank c = true ∨ c.toNat < 128 := by
  refine ⟨fun key? r answers => ?_, fun mute => ?_, fun text b means => means.ascii⟩
  · obtain ⟨ask, asked, gives, plays⟩ := asked?_of_answers answers
    obtain ⟨answer, after⟩ := resolveFlag_of_asked asked tally
    rw [answer, gives, after]
    refine ⟨plays, ?_, ?_⟩
    · rintro f rfl
      rfl
    · rintro v rfl
      rw [ok_bind]
      refine ⟨fun b => Flag.read_eq_ok_iff, fun f => ?_⟩
      rw [Flag.read_eq_error_iff]
      constructor
      · rintro ⟨meaningless, rfl⟩
        exact ⟨meaningless, rfl, rfl⟩
      · exact fun ⟨meaningless, same, _⟩ => ⟨meaningless, same⟩
  · have unasked : provider.asked? s = none := by
      cases asked : provider.asked? s with
      | none => rfl
      | some ask =>
        obtain ⟨key?, r, answers⟩ := answers_of_asked? asked tally
        exact absurd answers (mute key? r)
    unfold resolveFlag
    rw [unasked]
    exact ⟨rfl, _, rfl, rfl, rfl⟩

/-- A word between blanks is a flag, a number is none though it counts as given, and a failure is passed on, each for
one call; an object with nothing in the place of the question is not asked at all. -/
theorem resolveFlag_scripted :
    let s : Settings := bareSettings
    let words : List Answer := [.gives (.text "\tYeS "), .gives (.int 1), .fails (.raised .value "no")]
    let provider : Value := .provider (.holder (.provider (.callable 3 words)))
    ((resolveFlag s provider).answer [] = .ok true ∧ (resolveFlag s provider).after [] = [3]) ∧
      ((resolveFlag s provider).answer [3] = .error (.unknownFlag provider.show (Value.int 1).show) ∧
        (resolveFlag s provider).after [3] = [3, 3]) ∧
      (resolveFlag s provider).answer [3, 3] = .error (.raised .value "no") ∧
      ∃ f, (resolveFlag s (.provider (.holder .null))).answer [] = .error f ∧ f.kind = .policy := by
  intro s words provider
  have yes : (Value.text "\tYeS ").Means true :=
    .on (show "yes" ∈ _ by decide)
      ⟨['\t'], ['Y', 'e', 'S'], [' '], rfl, List.forall_mem_singleton.2 rfl, List.forall_mem_singleton.2 rfl, rfl⟩
  have number : ∀ b, ¬ (Value.int 1).Means b := nofun
  have mute : ∀ key? r, ¬ (Value.provider (.holder .null)).Answers s [] key? r := by
    rintro key? r (_ | _ | _ | _ | ⟨⟨⟩⟩ | ⟨something, -⟩ | _ | ⟨-, ⟨⟩⟩)
    exact something rfl
  obtain ⟨once, -, first⟩ := (resolveFlag_exact s provider []).1 (some 3) _ (.held (.script 3 words))
  obtain ⟨twice, -, second⟩ := (resolveFlag_exact s provider [3]).1 (some 3) _ (.held (.script 3 words))
  obtain ⟨-, third, -⟩ := (resolveFlag_exact s provider [3, 3]).1 (some 3) _ (.held (.script 3 words))
  obtain ⟨-, f, unasked, -, policy⟩ := (resolveFlag_exact s (.provider (.holder .null)) []).2.1 mute
  exact ⟨⟨((first _ rfl).1 true).2 yes, once⟩, ⟨((second _ rfl).2 _).2 ⟨number, rfl, rfl⟩, twice⟩, third _ rfl,
    f, unasked, policy⟩

end Call
end CertGate
