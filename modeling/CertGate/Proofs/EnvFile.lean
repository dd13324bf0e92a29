import CertGate.Deployment.EnvFile
import CertGate.Deployment.EnvFile.Template
import Mathlib.Data.List.TakeWhile

/-!
# Files of plain lines

A file is plain when each of its lines is blank, a comment, or a name with a value that stands for
itself. Such a file is read the way it looks.

* `Line` : the lines of a plain file, with their texts; `Line.Plain` says which characters they are
  made of;
* `bindingsOf_charsOf` : the bindings of a plain file are those of its lines, in order;
* `load_textOf` : an empty environment gets the variables of the lines, if their names differ;
* `fill_textOf` : a value is put behind a name in the lines of this name and nowhere else.
-/

namespace CertGate.EnvFile

/-! ## Plain lines -/

/-- A character of a plain name: a digit, a letter of ASCII, or the low line. -/
def isNamePart (c : Char) : Bool :=
  let n := c.toNat
  (0x30 ≤ n && n ≤ 0x39) || (0x41 ≤ n && n ≤ 0x5A) || n == 0x5F || (0x61 ≤ n && n ≤ 0x7A)

/-- A character that stands for itself in a value. -/
def isBare (c : Char) : Bool :=
  !Text.isBlank c && c != '\'' && c != '"' && c != '$' && c != '\x00'

/-- A character that does not end a line. -/
def isInside (c : Char) : Bool := c != '\n' && c != '\r'

/-- A value that stands for itself. -/
def Bare (s : String) : Prop := ∀ c ∈ s.toList, isBare c = true

/-- A plain name. -/
structure IsName (s : String) : Prop where
  ne_nil : s.toList ≠ []
  part : ∀ c ∈ s.toList, isNamePart c = true

instance (s : String) : Decidable (Bare s) :=
  decidable_of_iff (s.toList.all isBare = true) List.all_eq_true

instance (s : String) : Decidable (IsName s) :=
  decidable_of_iff ((!s.toList.isEmpty && s.toList.all isNamePart) = true) <| by
    rw [Bool.and_eq_true, Bool.not_eq_true', List.isEmpty_eq_false_iff, List.all_eq_true]
    exact ⟨fun h => ⟨h.1, h.2⟩, fun h => ⟨h.ne_nil, h.part⟩⟩

/-- A line of a plain file. -/
inductive Line
  | blank
  | comment (words : String)
  | binding (name value : String)

namespace Line

/-- The text of a line. -/
def text : Line → String
  | blank => ""
  | comment words => "#" ++ words
  | binding name value => name ++ ("=" ++ value)

/-- A line that is read the way it looks. -/
inductive Plain : Line → Prop
  | blank : Plain blank
  | comment {words : String} (inside : words.toList.all isInside = true) :
    Plain (comment words)
  | binding {name value : String} (isName : IsName name) (bare : Bare value) :
    Plain (binding name value)

/-- The variable that a line sets. -/
def entry? : Line → Option (String × String)
  | binding name value => some (name, value)
  | _ => none

end Line

/-- The text of a file with some lines. -/
def textOf (lines : List Line) : String := Text.joinTexts '\n' (lines.map Line.text)

/-- The characters of a file with some lines. -/
def charsOf (lines : List Line) : List Char :=
  ['\n'].intercalate (lines.map fun l => l.text.toList)

/-- What stands behind a line, for the lines that follow it. -/
def behind : List Line → List Char
  | [] => []
  | lines => '\n' :: charsOf lines

theorem toList_textOf (lines : List Line) : (textOf lines).toList = charsOf lines := by
  rw [textOf, Text.joinTexts, String.toList_ofList, List.map_map]
  rfl

theorem charsOf_cons (l : Line) (lines : List Line) :
    charsOf (l :: lines) = l.text.toList ++ behind lines := by
  cases lines with
  | nil => simp [charsOf, behind]
  | cons l' lines => simp [charsOf, behind, List.intercalate_cons_cons]

theorem drop_behind (lines : List Line) : (behind lines).drop 1 = charsOf lines := by
  cases lines with
  | nil => rfl
  | cons l lines => rfl

/-! ## Characters of plain lines -/

/-- A character of a name lies within ASCII, above the blanks. -/
theorem range_of_isNamePart {c : Char} (h : isNamePart c = true) :
    0x30 ≤ c.toNat ∧ c.toNat < 0x80 := by
  simp only [isNamePart, Bool.or_eq_true, Bool.and_eq_true, decide_eq_true_eq, beq_iff_eq] at h
  omega

theorem not_blank_of_isNamePart {c : Char} (h : isNamePart c = true) : Text.isBlank c = false := by
  obtain ⟨low, high⟩ := range_of_isNamePart h
  simp only [Text.isBlank, Bool.or_eq_false_iff, Bool.and_eq_false_iff, decide_eq_false_iff_not,
    beq_eq_false_iff_ne]
  omega

theorem ne_of_isNamePart {c d : Char} (h : isNamePart c = true) (other : isNamePart d = false) :
    c ≠ d := by
  rintro rfl
  rw [h] at other
  cases other

theorem isBare_iff {c : Char} : isBare c = true ↔
    Text.isBlank c = false ∧ c ≠ '\'' ∧ c ≠ '"' ∧ c ≠ '$' ∧ c ≠ '\x00' := by
  simp [isBare, and_assoc]

theorem isInside_iff {c : Char} : isInside c = true ↔ c ≠ '\n' ∧ c ≠ '\r' := by
  simp [isInside]

theorem ne_of_isBlank {c d : Char} (h : Text.isBlank c = false) (other : Text.isBlank d = true) :
    c ≠ d := by
  rintro rfl
  rw [h] at other
  cases other

/-! ## Reading a line -/

/-- What stands behind a line, nothing or a line feed first. -/
def Ends (tail : List Char) : Prop := ∀ c ∈ tail.head?, c = '\n'

theorem ends_behind (lines : List Line) : Ends (behind lines) := by
  cases lines with
  | nil => simp [Ends, behind]
  | cons l lines => simp [Ends, behind]

theorem takeWhile_append_of_stop {α : Type} {p : α → Bool} {xs ys : List α}
    (all : ∀ x ∈ xs, p x = true) (stop : ∀ y ∈ ys.head?, p y = false) :
    (xs ++ ys).takeWhile p = xs ∧ (xs ++ ys).dropWhile p = ys := by
  rw [List.takeWhile_append_of_pos all, List.dropWhile_append_of_pos all]
  cases ys with
  | nil => simp
  | cons y ys => simp [stop y (by simp)]

/-- A line is read up to its end. -/
theorem upToEnd {cs tail : List Char} (inside : ∀ c ∈ cs, c ≠ '\n') (ends : Ends tail) :
    (cs ++ tail).takeWhile (· != '\n') = cs ∧ (cs ++ tail).dropWhile (· != '\n') = tail :=
  takeWhile_append_of_stop (fun c mem => by simp [inside c mem]) fun c mem => by simp [ends c mem]

theorem skipBlanks_of_head {cs : List Char} (h : ∀ c ∈ cs.head?, isInlineBlank c = false) :
    skipBlanks cs = cs := by
  cases cs with
  | nil => rfl
  | cons c cs => exact List.dropWhile_cons_of_neg (by simp [h c (by simp)])

theorem isInlineBlank_of_not_blank {c : Char} (h : Text.isBlank c = false) :
    isInlineBlank c = false := by
  simp [isInlineBlank, h]

theorem isInlineBlank_of_ends {tail : List Char} (ends : Ends tail) :
    ∀ c ∈ tail.head?, isInlineBlank c = false := by
  intro c mem
  rw [ends c mem]
  decide

theorem lineEnd?_of_ends {tail : List Char} (ends : Ends tail) :
    lineEnd? tail = some (tail.drop 1) := by
  unfold lineEnd?
  rw [skipBlanks_of_head (isInlineBlank_of_ends ends)]
  cases tail with
  | nil => rfl
  | cons c rest =>
    obtain rfl := ends c (by simp)
    rfl

section Name
variable {name rest : List Char}

/-- Behind a name no blank stands, so the word `export` at its front is part of it. -/
theorem skipExport_name (part : ∀ c ∈ name, isNamePart c = true) :
    skipExport (name ++ '=' :: rest) = name ++ '=' :: rest := by
  unfold skipExport
  refine if_neg fun exported => ?_
  rw [Bool.and_eq_true, List.isPrefixOf_iff_prefix] at exported
  obtain ⟨⟨more, same⟩, blank⟩ := exported
  rw [← same, List.drop_left] at blank
  have next : ∀ c ∈ more.head?, Text.isBlank c = false := by
    rcases List.append_eq_append_iff.1 same with ⟨left, whole, rfl⟩ | ⟨left, word, whole⟩
    · cases left with
      | nil => simp [show Text.isBlank '=' = false by decide]
      | cons c left =>
        have mem : c ∈ name := by simp [whole]
        simp [not_blank_of_isNamePart (part c mem)]
    · cases left with
      | nil =>
        rw [List.nil_append] at whole
        simp [← whole, show Text.isBlank '=' = false by decide]
      | cons c left =>
        have mem : c ∈ "export".toList := by simp [word]
        rw [(List.cons.inj whole).1.symm] at mem
        exact absurd mem (by decide)
  cases head : more.head? with
  | none => simp [head] at blank
  | some c =>
    have inline := isInlineBlank_of_not_blank (next c head)
    simp [head, inline] at blank

theorem name?_name (ne : name ≠ []) (part : ∀ c ∈ name, isNamePart c = true) :
    name? (name ++ '=' :: rest) = some (some (String.ofList name), '=' :: rest) := by
  have inside : ∀ c ∈ name, (c != '=' && c != '#' && !Text.isBlank c) = true := fun c mem => by
    have sign : c ≠ '=' := ne_of_isNamePart (part c mem) (by decide)
    have number : c ≠ '#' := ne_of_isNamePart (part c mem) (by decide)
    simp [sign, number, not_blank_of_isNamePart (part c mem)]
  have stop : ∀ c ∈ ('=' :: rest).head?, (c != '=' && c != '#' && !Text.isBlank c) = false := by
    simp
  obtain ⟨taken, left⟩ := takeWhile_append_of_stop inside stop
  cases name with
  | nil => exact absurd rfl ne
  | cons c cs =>
    have number : c ≠ '#' := ne_of_isNamePart (part c (by simp)) (by decide)
    have quote : c ≠ '\'' := ne_of_isNamePart (part c (by simp)) (by decide)
    unfold name?
    split
    · next same => exact absurd (List.cons.inj same).1 number
    · next same => exact absurd (List.cons.inj same).1 quote
    · simp only [taken, left]
      rfl

end Name

section Value
variable {value tail : List Char}

theorem beforeComment_bare (bare : ∀ c ∈ value, isBare c = true) : beforeComment value = value := by
  induction value with
  | nil => rfl
  | cons c cs ih =>
    have blank := (isBare_iff.1 (bare c (by simp))).1
    simp [beforeComment, blank, ih fun d mem => bare d (by simp [mem])]

theorem trimEndBy_bare (bare : ∀ c ∈ value, isBare c = true) :
    Text.trimEndBy Text.isBlank value = value := by
  rcases List.eq_nil_or_concat value with rfl | ⟨cs, c, rfl⟩
  · rfl
  · rw [List.concat_eq_append] at bare ⊢
    exact Text.trimEndBy_concat (isBare_iff.1 (bare c (by simp))).1 cs

theorem rawValue?_bare (bare : ∀ c ∈ value, isBare c = true) (ends : Ends tail) :
    rawValue? (value ++ tail) = some (String.ofList value, tail) := by
  have inside : ∀ c ∈ value, c ≠ '\n' := fun c mem =>
    ne_of_isBlank (isBare_iff.1 (bare c mem)).1 (by decide)
  obtain ⟨taken, left⟩ := upToEnd inside ends
  have front : ∀ c ∈ (value ++ tail).head?, c ≠ '\'' ∧ c ≠ '"' := fun c mem => by
    cases value with
    | nil => simp [ends c mem]
    | cons d cs =>
      obtain rfl : d = c := by simpa using mem
      obtain ⟨-, single, double, -⟩ := isBare_iff.1 (bare d (by simp))
      exact ⟨single, double⟩
  unfold rawValue?
  split
  · next same => exact absurd rfl (front _ (by simp [same])).1
  · next same => exact absurd rfl (front _ (by simp [same])).2
  · simp only [taken, left, beforeComment_bare bare, trimEndBy_bare bare]

theorem valueBehind?_bare (bare : ∀ c ∈ value, isBare c = true) (ends : Ends tail) :
    valueBehind? (value ++ tail) = some (String.ofList value, tail) := by
  have kept : skipBlanks (value ++ tail) = value ++ tail := by
    refine skipBlanks_of_head fun c mem => ?_
    cases value with
    | nil => exact isInlineBlank_of_ends ends c mem
    | cons d cs =>
      obtain rfl : d = c := by simpa using mem
      exact isInlineBlank_of_not_blank (isBare_iff.1 (bare d (by simp))).1
  unfold valueBehind?
  rw [kept]
  simp only [Nat.lt_irrefl, decide_false, Bool.false_and, Bool.false_eq_true, if_false]
  exact rawValue?_bare bare ends

theorem line?_binding {name : List Char} (ne : name ≠ [])
    (part : ∀ c ∈ name, isNamePart c = true) (bare : ∀ c ∈ value, isBare c = true)
    (ends : Ends tail) :
    line? (name ++ '=' :: (value ++ tail)) =
      some (some (String.ofList name, some (String.ofList value)), tail.drop 1) := by
  have sign : skipBlanks ('=' :: (value ++ tail)) = '=' :: (value ++ tail) :=
    skipBlanks_of_head (by simp [show isInlineBlank '=' = false by decide])
  unfold line?
  rw [skipExport_name part, name?_name ne part]
  simp [sign, valueBehind?_bare bare ends, lineEnd?_of_ends ends]

end Value

theorem line?_comment {words tail : List Char} (inside : ∀ c ∈ words, c ≠ '\n')
    (ends : Ends tail) : line? ('#' :: (words ++ tail)) = some (none, tail.drop 1) := by
  have skipped : skipLine (words ++ tail) = tail.drop 1 := by
    rw [skipLine, (upToEnd inside ends).2]
  have sign : ∀ cs, skipBlanks ('#' :: cs) = '#' :: cs := fun cs =>
    skipBlanks_of_head (by simp [show isInlineBlank '#' = false by decide])
  have own : skipExport ('#' :: (words ++ tail)) = '#' :: (words ++ tail) := rfl
  unfold line? lineEnd?
  simp [own, name?, sign, skipped]

/-! ## Reading a file -/

theorem bindingsOf_blank {cs : List Char} (blank : ∀ c ∈ cs, Text.isBlank c = true) :
    bindingsOf cs = [] := by
  rw [bindingsOf]
  have nothing : cs.dropWhile Text.isBlank = [] := List.dropWhile_eq_nil_iff.2 blank
  simp [nothing]

theorem bindingsOf_of_line? {cs rest : List Char} {b? : Option Binding}
    (read : line? (cs.dropWhile Text.isBlank) = some (b?, rest))
    (ne : cs.dropWhile Text.isBlank ≠ []) (shorter : rest.length < cs.length) :
    bindingsOf cs = b?.toList ++ bindingsOf rest := by
  rw [bindingsOf]
  simp [read, ne, shorter]

/-- The line at the front of a file is read after the blanks in front of it. -/
theorem bindingsOf_line {blanks line : List Char} {c : Char} {lines : List Line}
    {b? : Option Binding} (blank : ∀ c ∈ blanks, Text.isBlank c = true) (first : Text.isBlank c = false)
    (read : line? (c :: line ++ behind lines) = some (b?, (behind lines).drop 1)) :
    bindingsOf (blanks ++ (c :: line ++ behind lines)) =
      b?.toList ++ bindingsOf (charsOf lines) := by
  have start : (blanks ++ (c :: line ++ behind lines)).dropWhile Text.isBlank =
      c :: line ++ behind lines :=
    (takeWhile_append_of_stop blank (by simp [first])).2
  rw [drop_behind] at read
  refine bindingsOf_of_line? (by rw [start, read]) (by rw [start]; exact List.cons_ne_nil _ _) ?_
  rw [← drop_behind]
  simp only [List.length_append, List.length_cons, List.length_drop]
  omega

/-- The bindings of a plain file are those of its lines. What is left of the file begins with the
line feeds of blank lines, which are skipped before the next line. -/
theorem bindingsOf_charsOf {lines : List Line} (plain : ∀ l ∈ lines, l.Plain) {blanks : List Char}
    (blank : ∀ c ∈ blanks, Text.isBlank c = true) :
    bindingsOf (blanks ++ charsOf lines) =
      (lines.filterMap Line.entry?).map fun e => (e.1, some e.2) := by
  induction lines generalizing blanks with
  | nil => exact bindingsOf_blank (by simpa [charsOf] using blank)
  | cons l lines ih =>
    have others : ∀ l' ∈ lines, l'.Plain := fun l' mem => plain l' (by simp [mem])
    have rest : bindingsOf ([] ++ charsOf lines) = _ := ih others (by simp)
    rw [List.nil_append] at rest
    rw [charsOf_cons]
    cases plain l (by simp) with
    | blank =>
      cases lines with
      | nil => exact bindingsOf_blank (by simpa [Line.text, behind] using blank)
      | cons l' lines =>
        have feed : ∀ c ∈ blanks ++ ['\n'], Text.isBlank c = true := by
          intro c mem
          rcases List.mem_append.1 mem with mem | mem
          · exact blank c mem
          · rw [List.mem_singleton.1 mem]
            decide
        have later := ih others feed
        rw [List.append_assoc] at later
        exact later
    | @comment words inside =>
      have sharp : (Line.comment words).text.toList = '#' :: words.toList := by simp [Line.text]
      rw [sharp, bindingsOf_line blank (by decide)
        (line?_comment (fun c mem => (isInside_iff.1 (List.all_eq_true.1 inside c mem)).1)
          (ends_behind lines)), rest]
      rfl
    | @binding name value isName bare =>
      have read := line?_binding isName.ne_nil isName.part bare (ends_behind lines)
      obtain ⟨c, cs, whole⟩ := List.exists_cons_of_ne_nil isName.ne_nil
      have shown : (Line.binding name value).text.toList =
          c :: (cs ++ '=' :: value.toList) := by simp [Line.text, whole]
      have first : Text.isBlank c = false :=
        not_blank_of_isNamePart (isName.part c (by simp [whole]))
      have same : c :: (cs ++ '=' :: value.toList) ++ behind lines =
          name.toList ++ '=' :: (value.toList ++ behind lines) := by simp [whole]
      rw [shown, bindingsOf_line blank first (same ▸ read), rest]
      simp [Line.entry?]

theorem lineFeeds_of_no_return {cs : List Char} (no_return : ∀ c ∈ cs, c ≠ '\r') :
    lineFeeds cs = cs := by
  induction cs with
  | nil => rfl
  | cons c cs ih =>
    have own := no_return c (by simp)
    rw [lineFeeds, ih fun d mem => no_return d (by simp [mem])]
    · rintro _ rfl _
      exact own rfl
    · exact own

/-- No line ends within a plain line. -/
theorem inside_text {l : Line} (plain : l.Plain) : ∀ c ∈ l.text.toList, c ≠ '\n' ∧ c ≠ '\r' := by
  cases plain with
  | blank => simp [Line.text]
  | comment inside =>
    simp only [Line.text, String.toList_append, List.mem_append]
    rintro c (mem | mem)
    · obtain rfl : c = '#' := by simpa using mem
      decide
    · exact isInside_iff.1 (List.all_eq_true.1 inside c mem)
  | binding isName bare =>
    simp only [Line.text, String.toList_append, List.mem_append]
    rintro c (mem | mem | mem)
    · have part := isName.part c mem
      exact ⟨ne_of_isNamePart part (by decide), ne_of_isNamePart part (by decide)⟩
    · obtain rfl : c = '=' := by simpa using mem
      decide
    · have blank := (isBare_iff.1 (bare c mem)).1
      exact ⟨ne_of_isBlank blank (by decide), ne_of_isBlank blank (by decide)⟩

theorem mem_charsOf {lines : List Line} {c : Char} (mem : c ∈ charsOf lines) :
    c = '\n' ∨ ∃ l ∈ lines, c ∈ l.text.toList := by
  induction lines with
  | nil => simp [charsOf] at mem
  | cons l lines ih =>
    rw [charsOf_cons] at mem
    rcases List.mem_append.1 mem with mem | mem
    · exact .inr ⟨l, by simp, mem⟩
    · cases lines with
      | nil => simp [behind] at mem
      | cons l' lines =>
        rcases List.mem_cons.1 mem with rfl | mem
        · exact .inl rfl
        · rcases ih mem with rfl | ⟨l'', mem', inside⟩
          · exact .inl rfl
          · exact .inr ⟨l'', by simp [List.mem_cons.1 mem'], inside⟩

theorem dropOrderMark_of_head {cs : List Char} (h : ∀ c ∈ cs.head?, c ≠ '\uFEFF') :
    dropOrderMark cs = cs := by
  unfold dropOrderMark
  split
  · exact absurd rfl (h _ rfl)
  · rfl

theorem head_charsOf {lines : List Line} (plain : ∀ l ∈ lines, l.Plain) :
    ∀ c ∈ (charsOf lines).head?, c ≠ '\uFEFF' := by
  cases lines with
  | nil => simp [charsOf]
  | cons l lines =>
    rw [charsOf_cons]
    cases plain l (by simp) with
    | blank =>
      intro c mem
      rw [ends_behind lines c (by simpa [Line.text] using mem)]
      decide
    | comment inside => simp [Line.text]
    | @binding name value isName bare =>
      obtain ⟨c, cs, whole⟩ := List.exists_cons_of_ne_nil isName.ne_nil
      have other := ne_of_isNamePart (d := '\uFEFF') (isName.part c (by simp [whole])) (by decide)
      simpa [Line.text, whole] using other

/-- A plain file binds the names of its lines to their values, in order. -/
theorem bindings_textOf {lines : List Line} (plain : ∀ l ∈ lines, l.Plain) :
    bindings (textOf lines) = (lines.filterMap Line.entry?).map fun e => (e.1, some e.2) := by
  have no_return : ∀ c ∈ charsOf lines, c ≠ '\r' := fun c mem => by
    rcases mem_charsOf mem with rfl | ⟨l, mem', inside⟩
    · decide
    · exact (inside_text (plain l mem') c inside).2
  unfold bindings
  rw [toList_textOf, dropOrderMark_of_head (head_charsOf plain), lineFeeds_of_no_return no_return]
  exact @bindingsOf_charsOf lines plain [] (by simp)

/-! ## The environment of a plain file -/

theorem expandChars_bare (scope : Scope) {cs : List Char} (bare : ∀ c ∈ cs, isBare c = true)
    {fuel : Nat} (enough : cs.length ≤ fuel) : expandChars scope fuel cs = cs := by
  induction cs generalizing fuel with
  | nil => cases fuel <;> rfl
  | cons c cs ih =>
    cases fuel with
    | zero => simp at enough
    | succ fuel =>
      have dollar : c ≠ '$' := (isBare_iff.1 (bare c (by simp))).2.2.2.1
      have rest := ih (fun d mem => bare d (by simp [mem])) (Nat.le_of_succ_le_succ enough)
      rw [expandChars, rest]
      rintro _ rfl _
      exact dollar rfl

theorem expand_bare (scope : Scope) {v : String} (bare : Bare v) : expand scope v = v := by
  rw [expand, expandChars_bare scope bare (Nat.le_refl _), String.ofList_toList]

theorem rebind_of_new {b : Binding} {bound : List Binding} (new : b.1 ∉ bound.map Prod.fst) :
    rebind b bound = bound ++ [b] := by
  induction bound with
  | nil => rfl
  | cons c bound ih =>
    rw [List.map_cons, List.mem_cons, not_or] at new
    rw [rebind, if_neg (Ne.symm new.1), ih new.2]
    rfl

/-- Bindings of distinct names to bare values are added one by one as they are. -/
theorem resolve_step (env : Environment) {entries : List (String × String)} {bound : List Binding}
    (bare : ∀ e ∈ entries, Bare e.2)
    (distinct : (bound.map Prod.fst ++ entries.map Prod.fst).Nodup) :
    (entries.map fun e => (e.1, some e.2)).foldl
      (fun bound b => rebind (b.1, b.2.map (expand ⟨env, bound⟩)) bound) bound =
        bound ++ entries.map fun e => (e.1, some e.2) := by
  induction entries generalizing bound with
  | nil => simp
  | cons e entries ih =>
    have new : e.1 ∉ bound.map Prod.fst := fun mem =>
      (List.nodup_append.1 distinct).2.2 _ mem _ (by simp) rfl
    have step : rebind (e.1, (some e.2).map (expand ⟨env, bound⟩)) bound =
        bound ++ [(e.1, some e.2)] := by
      rw [Option.map_some, expand_bare _ (bare e (by simp)), rebind_of_new new]
    rw [List.map_cons, List.foldl_cons, step, ih fun e' mem => bare e' (by simp [mem])]
    · simp
    · simpa using distinct

theorem plain_of_mem_entries {lines : List Line} (plain : ∀ l ∈ lines, l.Plain)
    {e : String × String} (mem : e ∈ lines.filterMap Line.entry?) : IsName e.1 ∧ Bare e.2 := by
  obtain ⟨l, inside, found⟩ := List.mem_filterMap.1 mem
  cases plain l inside with
  | blank => cases found
  | comment => cases found
  | binding isName bare =>
    cases found
    exact ⟨isName, bare⟩

theorem canHold_plain {e : String × String} (isName : IsName e.1) (bare : Bare e.2) :
    canHold e = true := by
  have sign : '=' ∉ e.1.toList := fun mem => by cases isName.part _ mem
  have nul : '\x00' ∉ e.1.toList := fun mem => by cases isName.part _ mem
  have nul' : '\x00' ∉ e.2.toList := fun mem => by cases bare _ mem
  simp [canHold, sign, nul, nul']

/-- An empty environment gets the variables of a plain file, each with the value behind its name. -/
theorem load_textOf {lines : List Line} (plain : ∀ l ∈ lines, l.Plain)
    (distinct : ((lines.filterMap Line.entry?).map Prod.fst).Nodup) :
    load [] (textOf lines) = .ok (lines.filterMap Line.entry?) := by
  have resolved : resolve [] (textOf lines) =
      (lines.filterMap Line.entry?).map fun e => (e.1, some e.2) := by
    unfold resolve
    rw [bindings_textOf plain]
    exact @resolve_step [] _ [] (fun e mem => (plain_of_mem_entries plain mem).2) distinct
  have all : added [] (textOf lines) = lines.filterMap Line.entry? := by
    unfold added
    rw [resolved, List.filterMap_map]
    exact List.filterMap_some
  have held : (added [] (textOf lines)).find? (fun v => !canHold v) = none := by
    rw [all, List.find?_eq_none]
    intro e mem
    obtain ⟨isName, bare⟩ := plain_of_mem_entries plain mem
    simp [canHold_plain isName bare]
  unfold load
  rw [held, all]
  rfl

/-! ## Filling a file in -/

/-- A line with a value behind its name, if it is the line of that name. -/
def Line.fill (name value : String) : Line → Line
  | binding other v => binding other (if other = name then value else v)
  | l => l

theorem plain_fill {name value : String} (bare : Bare value) {l : Line} (plain : l.Plain) :
    (l.fill name value).Plain := by
  cases plain with
  | blank => exact .blank
  | comment inside => exact .comment inside
  | @binding other v isName bare' =>
    refine .binding isName ?_
    split
    · exact bare
    · exact bare'

theorem plain_map_fill (name : String) {value : String} (bare : Bare value) {lines : List Line}
    (plain : ∀ l ∈ lines, l.Plain) : ∀ l ∈ lines.map (Line.fill name value), l.Plain := by
  intro l mem
  obtain ⟨l', inside, rfl⟩ := List.mem_map.1 mem
  exact plain_fill bare (plain l' inside)

/-- Names behind which a sign of equality stands are the same if one text begins with both. -/
theorem eq_of_common_sign {name other rest more : List Char} (no_sign : '=' ∉ name)
    (no_sign' : '=' ∉ other) (same : name ++ '=' :: rest = other ++ '=' :: more) :
    name = other := by
  have front : ∀ {cs tail : List Char}, '=' ∉ cs → (cs ++ '=' :: tail).takeWhile (· != '=') = cs :=
    fun {cs tail} no_sign => by
      refine (takeWhile_append_of_stop (fun c mem => ?_) (by simp)).1
      simp only [bne_iff_ne, ne_eq]
      rintro rfl
      exact no_sign mem
  rw [← front no_sign, same, front no_sign']

theorem fillLine_text {name : String} (isName : IsName name) (value : String) {l : Line}
    (plain : l.Plain) : fillLine name value l.text = (l.fill name value).text := by
  have no_sign : ∀ {n : String}, IsName n → '=' ∉ n.toList := fun isName mem => by
    cases isName.part _ mem
  obtain ⟨c, cs, whole⟩ := List.exists_cons_of_ne_nil isName.ne_nil
  have part := isName.part c (by simp [whole])
  unfold fillLine
  cases plain with
  | blank => simp [Text.startsText, whole, Line.text, Line.fill]
  | comment inside =>
    have number : c ≠ '#' := ne_of_isNamePart part (by decide)
    simp [Text.startsText, whole, Line.text, Line.fill, number]
  | @binding other v isName' bare =>
    by_cases h : other = name
    · subst h
      have begins : Text.startsText (other ++ "=") (Line.binding other v).text = true :=
        Text.startsText_iff.2 ⟨v, by simp [Line.text, String.append_assoc]⟩
      rw [if_pos begins, Line.fill, if_pos rfl, Line.text, String.append_assoc]
    · have apart : ¬ Text.startsText (name ++ "=") (Line.binding other v).text = true := by
        rw [Text.startsText_iff]
        rintro ⟨rest, same⟩
        have chars := congrArg String.toList same
        simp only [Line.text, String.toList_append, List.append_assoc] at chars
        exact h (String.toList_inj.1 (eq_of_common_sign (no_sign isName') (no_sign isName) chars))
      rw [if_neg apart, Line.fill, if_neg h]

/-- Filling a plain file in is filling its lines in. -/
theorem fill_textOf {name : String} (isName : IsName name) (value : String) {lines : List Line}
    (ne : lines ≠ []) (plain : ∀ l ∈ lines, l.Plain) :
    fill name value (textOf lines) = textOf (lines.map (Line.fill name value)) := by
  have pieces : Text.splitText '\n' (textOf lines) = lines.map Line.text := by
    refine Text.splitText_joinTexts (by simpa using ne) fun s mem feed => ?_
    obtain ⟨l, inside, rfl⟩ := List.mem_map.1 mem
    exact (inside_text (plain l inside) _ feed).1 rfl
  have each : ∀ l ∈ lines, fillLine name value l.text = (l.fill name value).text := fun l mem =>
    fillLine_text isName value (plain l mem)
  rw [fill, pieces, textOf, List.map_map, List.map_map]
  exact congrArg _ (List.map_congr_left each)

end CertGate.EnvFile
