import CertGate.Command.Arguments
import CertGate.Proofs.Outcome

/-!
# Command lines as they are written

A command line in full says by its long name what it turns on or sets, each value behind a sign of equality
or as the next argument. Written in this way it is read as what it says, in any order.

* `Phrase`, `Phrase.Fits` : one thing that a command line says, and whether the command knows it;
* `of?_longName`, `of?_bySign`, `of?_bare` : how the words of a phrase read;
* `read_phrases`, `of_phrases`, `of_labels_phrases` : what is read of a whole line, the arguments of the command
  itself in front;
* `of_help` : a line that asks for help gets it, whatever comes behind;
* `generate_of_phrases`, `status_of_phrases`, `check_of_phrases` : the plans that this makes.
-/

namespace CertGate

/-- The name of a switch behind two hyphens. -/
def Switch.longName (s : Switch) : String := s.names.getLastD ""

/-- A switch in full, with its value if it takes one. -/
inductive Phrase
  | alone (s : Switch)
  | bySign (s : Switch) (v : String)
  | next (s : Switch) (v : String)

/-- An argument that cannot be taken for a switch. -/
def IsBare (v : String) : Prop := Text.startsText "-" v = false ∨ v = "-"

namespace Phrase

/-- The arguments that make up a phrase. -/
def words : Phrase → List String
  | alone s => [s.longName]
  | bySign s v => [s.longName ++ "=" ++ v]
  | next s v => [s.longName, v]

/-- What a phrase turns on or sets. -/
def setting : Phrase → Setting
  | alone s => (s, "")
  | bySign s v | next s v => (s, v)

/-- How the arguments of a phrase read. -/
def reading : Phrase → List Word
  | alone s => [.switch s false none]
  | bySign s v => [.switch s false (some ⟨true, v⟩)]
  | next s v => [.switch s false none, .plain v]

/-- The phrases that a command understands and that tell it what to do. -/
inductive Fits (known : List Switch) : Phrase → Prop
  | alone {s : Switch} (mem : s ∈ known) (flag : s.takesValue = false) (silent : s ≠ .help ∧ s ≠ .version) :
    Fits known (.alone s)
  | bySign {s : Switch} {v : String} (mem : s ∈ known) (valued : s.takesValue = true)
    (admitted : s.admits v = true) : Fits known (.bySign s v)
  | next {s : Switch} {v : String} (mem : s ∈ known) (valued : s.takesValue = true)
    (admitted : s.admits v = true) (bare : IsBare v) : Fits known (.next s v)

end Phrase

/-! ## Words -/

/-- Switches none of which has the name of another one. -/
def Switch.Distinct (known : List Switch) : Prop := ∀ s ∈ known, named? known s.longName = some s

theorem distinct_checkSwitches : Switch.Distinct Plan.checkSwitches := by
  unfold Switch.Distinct
  decide

theorem distinct_checkedSwitches : Switch.Distinct Plan.checkedSwitches := by
  unfold Switch.Distinct
  decide

theorem distinct_generateSwitches : Switch.Distinct Plan.generateSwitches := by
  unfold Switch.Distinct
  decide

section Words
variable {known : List Switch} {s : Switch} {v : String}

theorem no_sign_in_name {name : String} (mem : name ∈ s.names) : '=' ∉ name.toList := by
  have free : ∀ name ∈ s.names, '=' ∉ name.toList := by cases s <;> decide
  exact free name mem

theorem longName_mem (s : Switch) : s.longName ∈ s.names := by cases s <;> decide

theorem isLong_longName (s : Switch) :
    Text.startsText "--" s.longName = true ∧ s.longName ≠ "-" ∧ s.longName ≠ "--" := by
  cases s <;> decide

theorem startsText_append {start front : String} (starts : Text.startsText start front = true) (rest : String) :
    Text.startsText start (front ++ rest) = true := by
  obtain ⟨more, rfl⟩ := Text.startsText_iff.1 starts
  exact Text.startsText_iff.2 ⟨more ++ rest, String.append_assoc⟩

theorem startsText_hyphen (starts : Text.startsText "--" v = true) : Text.startsText "-" v = true := by
  obtain ⟨rest, rfl⟩ := Text.startsText_iff.1 starts
  exact Text.startsText_iff.2 ⟨"-" ++ rest, by rw [← String.append_assoc]; rfl⟩

theorem sign_mem (front v : String) : '=' ∈ (front ++ "=" ++ v).toList := by simp

theorem cutAtEquals_bySign {front : String} (free : '=' ∉ front.toList) (v : String) :
    Word.cutAtEquals (front ++ "=" ++ v) = (front, some ⟨true, v⟩) := by
  have before : ∀ c ∈ front.toList, (c != '=') = true := by
    intro c mem
    rw [bne_iff_ne]
    rintro rfl
    exact free mem
  unfold Word.cutAtEquals
  simp only [String.toList_append, List.append_assoc, List.takeWhile_append_of_pos before,
    List.dropWhile_append_of_pos before]
  simp

theorem named?_bySign (known : List Switch) (front v : String) :
    Switch.named? known (front ++ "=" ++ v) = none := by
  apply List.find?_eq_none.2
  intro s _ named
  exact no_sign_in_name (of_decide_eq_true named) (sign_mem front v)

theorem of?_longName (distinct : Switch.Distinct known) (mem : s ∈ known) :
    Word.of? known s.longName = some (.switch s false none) := by
  obtain ⟨long, single, -⟩ := isLong_longName s
  unfold Word.of? Word.ofHyphened?
  rw [startsText_hyphen long, distinct s mem]
  simp [single, Word.isShortName, long]

theorem of?_bySign (distinct : Switch.Distinct known) (mem : s ∈ known) (v : String) :
    Word.of? known (s.longName ++ "=" ++ v) = some (.switch s false (some ⟨true, v⟩)) := by
  obtain ⟨long, -, -⟩ := isLong_longName s
  have hyphen : Text.startsText "-" (s.longName ++ "=" ++ v) = true := by
    rw [String.append_assoc]
    exact startsText_append (startsText_hyphen long) _
  have other : s.longName ++ "=" ++ v ≠ "-" := by
    intro same
    have inside := sign_mem s.longName v
    rw [same] at inside
    exact absurd inside (by decide)
  unfold Word.of? Word.ofHyphened?
  rw [hyphen, cutAtEquals_bySign (no_sign_in_name (longName_mem s)) v, named?_bySign]
  simp only [distinct s mem]
  simp [other, Word.isShortName, long]

theorem of?_bare (known : List Switch) (bare : IsBare v) : Word.of? known v = some (.plain v) := by
  unfold Word.of?
  rcases bare with other | rfl
  · rw [other]
    rfl
  · rfl

theorem ne_divider_of_bare (bare : IsBare v) : v ≠ "--" := by
  rintro rfl
  rcases bare with other | same
  · exact absurd other (by decide)
  · exact absurd same (by decide)

theorem all?_cons {w : Word} {ws : List Word} {rest : List String} (ne : v ≠ "--")
    (reads : Word.of? known v = some w) (others : Word.all? known rest = some ws) :
    Word.all? known (v :: rest) = some (w :: ws) := by
  rw [Word.all?, if_neg ne, reads, others]
  rfl

theorem all?_bare {labels rest : List String} {ws : List Word} (bare : ∀ l ∈ labels, IsBare l)
    (others : Word.all? known rest = some ws) :
    Word.all? known (labels ++ rest) = some (labels.map .plain ++ ws) := by
  induction labels with
  | nil => exact others
  | cons l labels ih =>
    obtain ⟨first, more⟩ := List.forall_mem_cons.1 bare
    exact all?_cons (ne_divider_of_bare first) (of?_bare known first) (ih more)

theorem all?_phrase (distinct : Switch.Distinct known) {p : Phrase} (fits : p.Fits known) {rest : List String}
    {ws : List Word} (others : Word.all? known rest = some ws) :
    Word.all? known (p.words ++ rest) = some (p.reading ++ ws) := by
  cases fits with
  | @alone s mem => exact all?_cons (isLong_longName s).2.2 (of?_longName distinct mem) others
  | @bySign s v mem =>
    have other : s.longName ++ "=" ++ v ≠ "--" := by
      intro same
      have inside := sign_mem s.longName v
      rw [same] at inside
      exact absurd inside (by decide)
    exact all?_cons other (of?_bySign distinct mem v) others
  | @next s v mem _ _ bare =>
    exact all?_cons (isLong_longName s).2.2 (of?_longName distinct mem)
      (all?_cons (ne_divider_of_bare bare) (of?_bare known bare) others)

theorem all?_phrases (distinct : Switch.Distinct known) {phrases : List Phrase}
    (fits : ∀ p ∈ phrases, p.Fits known) {rest : List String} {ws : List Word}
    (others : Word.all? known rest = some ws) :
    Word.all? known (phrases.flatMap Phrase.words ++ rest) =
      some (phrases.flatMap Phrase.reading ++ ws) := by
  induction phrases with
  | nil => exact others
  | cons p phrases ih =>
    obtain ⟨first, more⟩ := List.forall_mem_cons.1 fits
    rw [List.flatMap_cons, List.flatMap_cons, List.append_assoc, List.append_assoc]
    exact all?_phrase distinct first (ih more)

end Words

/-! ## Lines -/

namespace CommandLine
variable {known : List Switch}

/-- What has been read, and one thing more. -/
def push (r : CommandLine) (e : Setting) : CommandLine :=
  { r with labels := r.labels.close, given := r.given ++ [e] }

theorem toList_close (ls : Labels) : ls.close.toList = ls.toList := by cases ls <;> rfl

theorem applyAll_single (r : CommandLine) {e : Setting} (silent : e.1 ≠ .help ∧ e.1 ≠ .version)
    (admitted : e.1.takesValue = true → e.1.admits e.2 = true) : r.applyAll [e] false = .ok (r.push e) := by
  obtain ⟨s, v⟩ := e
  have given (r : CommandLine) : r.apply (s, v) = .ok { r with given := r.given ++ [(s, v)] } := by
    unfold apply
    split
    · next help => exact absurd help silent.1
    · next version => exact absurd version silent.2
    · rw [if_neg]
      rw [Bool.and_eq_true, Bool.not_eq_true']
      rintro ⟨valued, refused⟩
      exact absurd (admitted valued) (by simp [refused])
  unfold applyAll push
  rw [List.foldlM_cons, given]
  simp

theorem read_phrase {p : Phrase} (fits : p.Fits known) (r : CommandLine) (ws : List Word) :
    read known r (p.reading ++ ws) = read known (r.push p.setting) ws := by
  cases fits with
  | @alone s mem flag silent =>
    have told : saying? known s false none = some ⟨[(s, "")], none, false⟩ := by
      simp [saying?, alone, flag]
    show read known r (.switch s false none :: ws) = _
    rw [read.eq_def]
    simp only [told, applyAll_single r silent (e := (s, "")) (by simp [flag]), ok_bind]
    rfl
  | @bySign s v mem valued admitted =>
    have told : saying? known s false (some ⟨true, v⟩) = some ⟨[(s, v)], none, false⟩ := by
      simp [saying?, valued]
    have silent : s ≠ .help ∧ s ≠ .version := by
      constructor <;> rintro rfl <;> cases valued
    show read known r (.switch s false (some ⟨true, v⟩) :: ws) = _
    rw [read.eq_def]
    simp only [told, applyAll_single r (e := (s, v)) silent (fun _ => admitted), ok_bind]
    rfl
  | @next s v mem valued admitted =>
    have told : saying? known s false none = some ⟨[], some s, false⟩ := by
      simp [saying?, alone, valued]
    have silent : s ≠ .help ∧ s ≠ .version := by
      constructor <;> rintro rfl <;> cases valued
    show read known r (.switch s false none :: .plain v :: ws) = _
    rw [read.eq_def]
    simp only [told, List.nil_append, applyAll_single r (e := (s, v)) silent (fun _ => admitted), ok_bind]
    rfl

/-- What is read of phrases is what they turn on and set, in their order. -/
theorem read_phrases {phrases : List Phrase} (fits : ∀ p ∈ phrases, p.Fits known) (r : CommandLine)
    (ws : List Word) : ∃ labels, labels.toList = r.labels.toList ∧
      read known r (phrases.flatMap Phrase.reading ++ ws) =
        read known ⟨labels, r.given ++ phrases.map Phrase.setting, r.hasExcess⟩ ws := by
  induction phrases generalizing r with
  | nil => exact ⟨r.labels, rfl, by simp⟩
  | cons p phrases ih =>
    obtain ⟨first, more⟩ := List.forall_mem_cons.1 fits
    obtain ⟨labels, same, reads⟩ := ih more (r.push p.setting)
    refine ⟨labels, same.trans (toList_close r.labels), ?_⟩
    rw [List.flatMap_cons, List.append_assoc, read_phrase first, reads]
    simp [push]

theorem read_growing (labels front : List String) (given : List Setting) (ws : List Word) :
    read known ⟨.growing front, given, false⟩ (labels.map .plain ++ ws) =
      read known ⟨.growing (front ++ labels), given, false⟩ ws := by
  induction labels generalizing front with
  | nil => simp
  | cons l labels ih =>
    show read known _ (.plain l :: (labels.map .plain ++ ws)) = _
    rw [read]
    show read known ⟨.growing (front ++ [l]), given, false⟩ _ = _
    rw [ih, List.append_assoc, List.singleton_append]

/-- The arguments of the command itself are read together. -/
theorem read_labels (known : List Switch) (labels : List String) (ws : List Word) : ∃ ls : Labels, ls.toList = labels ∧
    read known start (labels.map .plain ++ ws) = read known ⟨ls, [], false⟩ ws := by
  cases labels with
  | nil => exact ⟨.none, rfl, rfl⟩
  | cons l labels =>
    refine ⟨.growing (l :: labels), rfl, ?_⟩
    show read known start (.plain l :: (labels.map .plain ++ ws)) = _
    rw [read]
    exact read_growing labels [l] [] ws

/-- A line in full is read as what it says. -/
theorem of_phrases (distinct : Switch.Distinct known) {phrases : List Phrase}
    (fits : ∀ p ∈ phrases, p.Fits known) : ∃ ls : Labels,
      of known false (phrases.flatMap Phrase.words) = .ok ⟨ls, phrases.map Phrase.setting, false⟩ := by
  have words := all?_phrases distinct fits (Word.all?.eq_1 known)
  obtain ⟨ls, -, reads⟩ := read_phrases fits { start with labels := .complete [] } []
  rw [List.append_nil, List.append_nil] at words
  rw [List.append_nil] at reads
  refine ⟨ls, ?_⟩
  unfold of
  simp only [words]
  rw [if_neg (by decide), reads]
  rfl

/-- The same with arguments of the command itself in front. -/
theorem of_labels_phrases (distinct : Switch.Distinct known) {phrases : List Phrase}
    (fits : ∀ p ∈ phrases, p.Fits known) {labels : List String} (bare : ∀ l ∈ labels, IsBare l) :
    ∃ ls : Labels, ls.toList = labels ∧
      of known true (labels ++ phrases.flatMap Phrase.words) =
        .ok ⟨ls, phrases.map Phrase.setting, false⟩ := by
  have words := all?_phrases distinct fits (Word.all?.eq_1 known)
  obtain ⟨front, named, readFront⟩ := read_labels known labels (phrases.flatMap Phrase.reading)
  obtain ⟨ls, same, reads⟩ := read_phrases fits ⟨front, [], false⟩ []
  rw [List.append_nil, List.append_nil] at words
  rw [List.append_nil] at reads
  refine ⟨ls, same.trans named, ?_⟩
  unfold of
  simp only [all?_bare bare words, if_true]
  rw [readFront, reads]
  rfl

/-- Behind what a command understands, help is given as soon as it is asked for. -/
theorem of_help (distinct : Switch.Distinct known) {phrases : List Phrase} (fits : ∀ p ∈ phrases, p.Fits known)
    (asked : .help ∈ known) {rest : List String} {ws : List Word} (others : Word.all? known rest = some ws)
    (hasLabels : Bool) :
    of known hasLabels (phrases.flatMap Phrase.words ++ "--help" :: rest) = .error .help := by
  have help : Word.all? known ("--help" :: rest) = some (.switch .help false none :: ws) :=
    all?_cons (by decide) (of?_longName distinct asked) others
  have given (r : CommandLine) : read known r (.switch .help false none :: ws) = .error .help := by
    rw [read.eq_def]
    rfl
  unfold of
  simp only [all?_phrases distinct fits help]
  obtain ⟨ls, -, reads⟩ := read_phrases fits
    (if hasLabels then start else { start with labels := .complete [] }) (.switch .help false none :: ws)
  rw [reads, given]
  rfl

end CommandLine

/-! ## Plans -/

/-- The value that phrases leave a switch with: the last one, or a default. -/
def lastValue (phrases : List Phrase) (s : Switch) (default : String) : String :=
  ((phrases.filterMap fun p => if p.setting.1 = s then some p.setting.2 else none).getLast?).getD default

/-- The way to run that phrases ask for. -/
def mannerOf (phrases : List Phrase) : Manner :=
  let has (s : Switch) : Bool := phrases.any fun p => p.setting.1 = s
  ⟨has .traceback, has .noColor, has .forceColor, has .skipChecks⟩

section Plans
variable {phrases : List Phrase} {ls : Labels}

theorem Phrase.Fits.admits {known : List Switch} {p : Phrase} (fits : p.Fits known)
    (valued : p.setting.1.takesValue = true) : p.setting.1.admits p.setting.2 = true := by
  cases fits with
  | alone _ flag => exact absurd valued (by simp [setting, flag])
  | bySign _ _ admitted => exact admitted
  | next _ _ admitted => exact admitted

/-- A last value is one that a phrase sets, where there is any. -/
theorem lastValue_set (phrases : List Phrase) (s : Switch) (default : String) :
    lastValue phrases s default = default ∨ ∃ p ∈ phrases, p.setting = (s, lastValue phrases s default) := by
  unfold lastValue
  cases last : (phrases.filterMap fun p => if p.setting.1 = s then some p.setting.2 else none).getLast? with
  | none => exact .inl rfl
  | some v =>
    obtain ⟨p, mem, sets⟩ := List.mem_filterMap.1 (List.mem_of_getLast? last)
    split at sets
    · next here =>
      cases sets
      exact .inr ⟨p, mem, Prod.ext here rfl⟩
    · cases sets

theorem lookup_failLevel {known : List Switch} (fits : ∀ p ∈ phrases, p.Fits known) :
    (Threshold.names.lookup (lastValue phrases .failLevel "ERROR")).isSome = true := by
  rcases lastValue_set phrases .failLevel "ERROR" with default | ⟨p, mem, sets⟩
  · rw [default]
    rfl
  · have admitted := (fits p mem).admits (by rw [sets]; rfl)
    rw [sets] at admitted
    exact admitted

theorem has_phrases (s : Switch) :
    CommandLine.has ⟨ls, phrases.map Phrase.setting, false⟩ s = phrases.any fun p => p.setting.1 = s := by
  unfold CommandLine.has CommandLine.values
  induction phrases with
  | nil => rfl
  | cons p phrases ih =>
    rw [List.map_cons, List.filterMap_cons, List.any_cons]
    by_cases h : p.setting.1 = s
    · simp [h]
    · simp only [h, if_false, decide_false, Bool.false_or]
      exact ih

theorem valueOr_phrases (s : Switch) (default : String) :
    CommandLine.valueOr ⟨ls, phrases.map Phrase.setting, false⟩ s default = lastValue phrases s default := by
  unfold CommandLine.valueOr CommandLine.values lastValue
  rw [List.filterMap_map]
  rfl

theorem manner_phrases :
    CommandLine.manner ⟨ls, phrases.map Phrase.setting, false⟩ = mannerOf phrases := by
  unfold CommandLine.manner mannerOf
  simp only [has_phrases]

/-- A line for a new environment file is carried out as it is written: at the last path it names, and with
enforcement on if it says so. -/
theorem generate_of_phrases (fits : ∀ p ∈ phrases, p.Fits Plan.generateSwitches) :
    Plan.ofArguments ("generate_env" :: phrases.flatMap Phrase.words) =
      .generate (mannerOf phrases) (lastValue phrases .path ".env")
        (phrases.any fun p => p.setting.1 = .enforce) := by
  obtain ⟨ls, reads⟩ := CommandLine.of_phrases distinct_generateSwitches fits
  unfold Plan.ofArguments Plan.ofReading
  simp only [reads, has_phrases, valueOr_phrases, manner_phrases]

example : Plan.ofArguments ["generate_env", "--enforce", "--path=conf/.env", "--path", "-"] =
    .generate ⟨false, false, false, false⟩ "-" true := by
  decide +kernel

theorem status_of_phrases (fits : ∀ p ∈ phrases, p.Fits Plan.checkedSwitches) :
    Plan.ofArguments ("x509_status" :: phrases.flatMap Phrase.words) = .status (mannerOf phrases) := by
  obtain ⟨ls, reads⟩ := CommandLine.of_phrases distinct_checkedSwitches fits
  unfold Plan.ofArguments Plan.ofReading
  simp only [reads, manner_phrases]

/-- A check looks at the parts that it names in front, and at the gravity that it names last. -/
theorem check_of_phrases (fits : ∀ p ∈ phrases, p.Fits Plan.checkSwitches) {labels : List String}
    (bare : ∀ l ∈ labels, IsBare l) :
    ∃ c, Plan.ofArguments ("check" :: (labels ++ phrases.flatMap Phrase.words)) =
        .check (mannerOf phrases) c ∧
      c.labels = labels ∧ (c.isDeployment = phrases.any fun p => p.setting.1 = .deploy) ∧
      some c.threshold = Threshold.names.lookup (lastValue phrases .failLevel "ERROR") := by
  obtain ⟨ls, same, reads⟩ := CommandLine.of_labels_phrases distinct_checkSwitches fits bare
  refine ⟨CommandLine.checkScope ⟨ls, phrases.map Phrase.setting, false⟩, ?_, same, has_phrases _, ?_⟩
  · unfold Plan.ofArguments Plan.ofReading
    simp only [reads, manner_phrases]
  · obtain ⟨t, named⟩ := Option.isSome_iff_exists.1 (lookup_failLevel fits)
    rw [CommandLine.checkScope, valueOr_phrases, named]
    rfl

end Plans
end CertGate
