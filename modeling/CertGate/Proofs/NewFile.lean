import CertGate.Command
import CertGate.Proofs.Outcome

/-!
# What commands leave behind

Commands run in a directory one after the other. All that any of them does to it is to add a new
environment file, where nothing is yet; what is there stays there as it is.

* `Spot.Proper`, `ofPath_path` : the spots that paths lead to. Each is the spot of its own path;
* `create_eq_ok_iff` : where a file can be created;
* `Directory.Extends`, `isTaken_of_extends` : a directory with more files in it. What leads somewhere goes
  on to do so;
* `run_cases` : what one command does to the directory;
* `Directory.Grows`, `grows_runAll` : what any number of commands do;
* `files_of_grows`, `nodup_of_grows` : the old files stay in front of the new ones, which are all from the
  template, and no path is used twice;
* `generate_stays` : a file that has been generated is never generated again.
-/

namespace CertGate

/-! ## Spots and their paths -/

/-- A name that a path can lead on by. -/
structure Spot.IsName (name : String) : Prop where
  given : name ≠ ""
  single : '/' ∉ name.toList

/-- A spot that is written in the shortest way. Nothing is above the root, and no name stands for another
spot. -/
structure Spot.Proper (p : Spot) : Prop where
  rooted : p.isRooted = true → p.up = 0
  names : ∀ name ∈ p.names, IsName name ∧ name ≠ "." ∧ name ≠ ".."

namespace Spot
variable {p : Spot} {name : String}

theorem proper_root : root.Proper := ⟨fun _ => rfl, nofun⟩

theorem proper_here : here.Proper := ⟨fun _ => rfl, nofun⟩

theorem Proper.parent (proper : p.Proper) : p.parent.Proper := by
  unfold Spot.parent
  split
  · split
    · exact proper
    · next away => exact ⟨fun rooted => absurd rooted away, proper.names⟩
  · exact ⟨proper.rooted, fun name mem => proper.names name (List.dropLast_subset _ mem)⟩

theorem Proper.step (proper : p.Proper) (fit : IsName name) : (p.step name).Proper := by
  unfold Spot.step
  split
  · exact proper
  next other =>
    split
    · exact proper.parent
    next further =>
      refine ⟨proper.rooted, fun name' mem => ?_⟩
      rcases List.mem_append.1 mem with mem | mem
      · exact proper.names name' mem
      · rw [List.mem_singleton.1 mem]
        exact ⟨fit, other, further⟩

theorem isName_of_mem_steps {path : String} (mem : name ∈ steps path) : IsName name := by
  obtain ⟨piece, given⟩ := List.mem_filter.1 mem
  exact ⟨by simpa using given, Text.not_mem_of_mem_splitText piece⟩

theorem proper_origin (path : String) : (origin path).Proper := by
  unfold origin
  split
  · exact proper_root
  · exact proper_here

/-- What a path consists of, once it has been written down. -/
def pieces (p : Spot) : List String := List.replicate p.up ".." ++ p.names

theorem isName_of_mem_pieces (proper : p.Proper) (mem : name ∈ p.pieces) : IsName name := by
  rcases List.mem_append.1 mem with mem | mem
  · rw [List.eq_of_mem_replicate mem]
    exact ⟨by decide, by decide⟩
  · exact (proper.names name mem).1

theorem filter_pieces (proper : p.Proper) : p.pieces.filter (· ≠ "") = p.pieces :=
  List.filter_eq_self.2 fun _ mem => by simpa using (isName_of_mem_pieces proper mem).given

theorem splitText_pieces (proper : p.Proper) (some : p.pieces ≠ []) :
    Text.splitText '/' (Text.joinTexts '/' p.pieces) = p.pieces :=
  Text.splitText_joinTexts some fun _ mem => (isName_of_mem_pieces proper mem).single

/-- The path of a rooted spot is a join too, with nothing in front of the first slash. -/
theorem slash_join (ss : List String) (some : ss ≠ []) :
    "/" ++ Text.joinTexts '/' ss = Text.joinTexts '/' ("" :: ss) := by
  apply String.toList_inj.1
  cases ss with
  | nil => exact absurd rfl some
  | cons s ss => simp [Text.joinTexts]

theorem steps_path (proper : p.Proper) : steps p.path = p.pieces := by
  by_cases none : p.pieces = []
  · have way : p.path = if p.isRooted then "/" else "" := by
      show (if p.isRooted then "/" ++ Text.joinTexts '/' p.pieces else Text.joinTexts '/' p.pieces) = _
      rw [none]
      rfl
    rw [way, none]
    cases p.isRooted <;> decide
  · have way : p.path = if p.isRooted then "/" ++ Text.joinTexts '/' p.pieces
        else Text.joinTexts '/' p.pieces := rfl
    unfold steps
    rw [way]
    cases p.isRooted with
    | false => rw [if_neg (by decide), splitText_pieces proper none, filter_pieces proper]
    | true =>
      have free : ∀ s ∈ "" :: p.pieces, '/' ∉ s.toList := by
        rw [List.forall_mem_cons]
        exact ⟨by decide, fun s mem => (isName_of_mem_pieces proper mem).single⟩
      rw [if_pos rfl, slash_join _ none, Text.splitText_joinTexts (List.cons_ne_nil _ _) free,
        List.filter_cons_of_neg (by decide), filter_pieces proper]

theorem head?_join {ss : List String} (fit : ∀ s ∈ ss, IsName s) :
    (Text.joinTexts '/' ss).toList.head? ≠ some '/' := by
  cases ss with
  | nil => decide
  | cons s ss =>
    obtain ⟨given, single⟩ := fit s (by simp)
    obtain ⟨c, cs, front⟩ : ∃ c cs, s.toList = c :: cs := by
      cases h : s.toList with
      | nil => exact absurd (String.toList_inj.1 (by simpa using h)) given
      | cons c cs => exact ⟨c, cs, rfl⟩
    have other : c ≠ '/' := by
      rintro rfl
      exact single (by simp [front])
    cases ss with
    | nil => simpa [Text.joinTexts, front] using other
    | cons t ts => simpa [Text.joinTexts, front] using other

theorem origin_path (proper : p.Proper) : origin p.path = ⟨p.isRooted, 0, []⟩ := by
  have way : p.path = if p.isRooted then "/" ++ Text.joinTexts '/' p.pieces
      else Text.joinTexts '/' p.pieces := rfl
  unfold origin
  rw [way]
  cases p.isRooted with
  | true => simp [root]
  | false => exact if_neg (head?_join fun s mem => isName_of_mem_pieces proper mem)

theorem foldl_step_up (n k : Nat) :
    (List.replicate n "..").foldl step ⟨false, k, []⟩ = ⟨false, k + n, []⟩ := by
  induction n generalizing k with
  | zero => rfl
  | succ n ih =>
    rw [List.replicate_succ, List.foldl_cons]
    show List.foldl step ⟨false, k + 1, []⟩ _ = _
    rw [ih, Nat.add_assoc, Nat.add_comm 1]

theorem foldl_step_names {names : List String} (own : ∀ name ∈ names, name ≠ "." ∧ name ≠ "..") (p : Spot) :
    names.foldl step p = { p with names := p.names ++ names } := by
  induction names generalizing p with
  | nil => simp
  | cons name names ih =>
    obtain ⟨other, further⟩ := own name (by simp)
    have onward : p.step name = p.child name := by
      unfold step
      rw [if_neg other, if_neg further]
    rw [List.foldl_cons, onward, ih fun name mem => own name (by simp [mem])]
    simp [child]

/-- A spot is the spot of its path. -/
theorem ofPath_path (proper : p.Proper) : ofPath p.path = p := by
  obtain ⟨rooted, names⟩ := proper
  unfold ofPath
  rw [steps_path ⟨rooted, names⟩, origin_path ⟨rooted, names⟩, pieces, List.foldl_append]
  obtain ⟨isRooted, up, ns⟩ := p
  have climbed : (List.replicate up "..").foldl step ⟨isRooted, 0, []⟩ = ⟨isRooted, up, []⟩ := by
    cases isRooted with
    | true =>
      obtain rfl : up = 0 := rooted rfl
      rfl
    | false => rw [foldl_step_up, Nat.zero_add]
  dsimp only at names ⊢
  rw [climbed, foldl_step_names fun name mem => (names name mem).2]
  rfl

end Spot

/-! ## Creating a file -/

namespace Directory
variable {d d' : Directory} {path text name : String} {folder : Spot} {name? : Option String}

theorem approach_eq_ok_iff : d.approach path = .ok (folder, name?) ↔ checkPath path = .ok () ∧
    (Spot.steps path).dropLast.foldlM d.enter (Spot.origin path) = .ok folder ∧
      name? = (Spot.steps path).getLast? := by
  unfold approach
  simp only [bind_eq_ok_iff, pure_eq_ok, Except.ok.injEq, Prod.mk.injEq]
  constructor
  · rintro ⟨_, fit, p, entered, rfl, rfl⟩
    exact ⟨fit, entered, rfl⟩
  · rintro ⟨fit, entered, rfl⟩
    exact ⟨(), fit, folder, entered, rfl, rfl⟩

theorem eq_step_of_enter {p q : Spot} (entered : d.enter p name = .ok q) : q = p.step name := by
  unfold enter at entered
  dsimp only at entered
  split at entered
  · exact (Except.ok.inj entered).symm
  · repeat' split at entered
    all_goals cases entered

/-- The folder that a path leads to is proper, and so is what the last step adds to it. -/
theorem proper_of_approach (found : d.approach path = .ok (folder, some name)) :
    folder.Proper ∧ Spot.IsName name := by
  obtain ⟨-, entered, last⟩ := approach_eq_ok_iff.1 found
  refine ⟨?_, Spot.isName_of_mem_steps (List.mem_of_getLast? last.symm)⟩
  have fit : ∀ name ∈ (Spot.steps path).dropLast, Spot.IsName name := fun name mem =>
    Spot.isName_of_mem_steps (List.dropLast_subset _ mem)
  have start := Spot.proper_origin path
  generalize Spot.origin path = p at entered start
  generalize (Spot.steps path).dropLast = steps at entered fit
  induction steps generalizing p with
  | nil =>
    cases entered
    exact start
  | cons step steps ih =>
    rw [List.foldlM_cons] at entered
    obtain ⟨q, first, rest⟩ := bind_eq_ok_iff.1 entered
    obtain ⟨fit_first, fit_rest⟩ := List.forall_mem_cons.1 fit
    obtain rfl := eq_step_of_enter first
    exact ih _ (start.step fit_first) rest fit_rest

theorem create_eq_ok_iff : d.create path text = .ok d' ↔ ∃ folder name,
    d.approach path = .ok (folder, some name) ∧ wantsFolder path = false ∧
      d.isFolder (folder.step name) = false ∧ isLongName name = false ∧
        d' = { d with files := d.files ++ [((folder.step name).path, text)] } := by
  unfold create
  rw [bind_eq_ok_iff]
  constructor
  · rintro ⟨⟨folder, name?⟩, found, made⟩
    cases name? with
    | none => cases made
    | some name =>
      dsimp only at made
      split at made
      · cases made
      next free =>
        split at made
        · cases made
        next short =>
          rw [Bool.or_eq_true, not_or, Bool.not_eq_true, Bool.not_eq_true] at free
          exact ⟨folder, name, found, free.1, free.2, by simpa using short, (Except.ok.inj made).symm⟩
  · rintro ⟨folder, name, found, open_path, free, short, rfl⟩
    refine ⟨_, found, ?_⟩
    dsimp only
    rw [open_path, free, if_neg (by decide), short, if_neg (by decide)]

/-! ## Directories with more files -/

/-- The other directory has the same files in front of others, and the same folders. -/
structure Extends (d d' : Directory) : Prop where
  files : d.files <+: d'.files
  folders : d'.folders = d.folders

theorem Extends.refl (d : Directory) : d.Extends d := ⟨List.prefix_refl _, rfl⟩

theorem Extends.trans {d'' : Directory} (first : d.Extends d') (next : d'.Extends d'') : d.Extends d'' :=
  ⟨first.files.trans next.files, next.folders.trans first.folders⟩

theorem isFolder_of_extends (larger : d.Extends d') {p : Spot} (there : d.isFolder p = true) :
    d'.isFolder p = true := by
  unfold isFolder at there ⊢
  rw [larger.folders]
  simp only [Bool.or_eq_true, List.any_eq_true] at there ⊢
  exact there.imp_right fun ⟨f, mem, inside⟩ => ⟨f, larger.files.mem mem, inside⟩

theorem isFile_of_extends (larger : d.Extends d') {p : Spot} (there : d.isFile p = true) :
    d'.isFile p = true := by
  unfold isFile at there ⊢
  rw [List.any_eq_true] at there ⊢
  exact there.imp fun f ⟨mem, here⟩ => ⟨larger.files.mem mem, here⟩

theorem enter_of_extends (larger : d.Extends d') {p q : Spot} (entered : d.enter p name = .ok q) :
    d'.enter p name = .ok q := by
  unfold enter at entered ⊢
  dsimp only at entered ⊢
  split at entered
  · next there =>
    rw [if_pos (isFolder_of_extends larger there)]
    exact entered
  · repeat' split at entered
    all_goals cases entered

theorem approach_of_extends (larger : d.Extends d') (found : d.approach path = .ok (folder, name?)) :
    d'.approach path = .ok (folder, name?) := by
  obtain ⟨fit, entered, last⟩ := approach_eq_ok_iff.1 found
  refine approach_eq_ok_iff.2 ⟨fit, ?_, last⟩
  clear found last
  generalize Spot.origin path = q at entered
  generalize (Spot.steps path).dropLast = steps at entered
  induction steps generalizing q with
  | nil => exact entered
  | cons step steps ih =>
    rw [List.foldlM_cons] at entered ⊢
    obtain ⟨q', first, rest⟩ := bind_eq_ok_iff.1 entered
    exact bind_eq_ok_iff.2 ⟨q', enter_of_extends larger first, ih q' rest⟩

theorem isTaken_of_extends (larger : d.Extends d') (taken : d.isTaken path = true) :
    d'.isTaken path = true := by
  unfold isTaken at taken ⊢
  cases found : d.approach path with
  | error f => simp [found] at taken
  | ok way =>
    obtain ⟨folder, name?⟩ := way
    rw [found] at taken
    rw [approach_of_extends larger found]
    cases name? with
    | none => rfl
    | some name =>
      dsimp only at taken ⊢
      rw [Bool.or_eq_true, Bool.and_eq_true] at taken ⊢
      exact taken.imp (isFolder_of_extends larger) (And.imp_left (isFile_of_extends larger))

/-- What becomes of a directory when a file is added to it at a spot where nothing is. -/
structure Adds (d d' : Directory) (text : String) (p : Spot) : Prop where
  proper : p.Proper
  free : d.isFile p = false ∧ d.isFolder p = false
  files : d'.files = d.files ++ [(p.path, text)]
  folders : d'.folders = d.folders

theorem Adds.extends {p : Spot} (adds : d.Adds d' text p) : d.Extends d' :=
  ⟨⟨_, adds.files.symm⟩, adds.folders⟩

/-- A file that is created at a free path is there from then on. -/
theorem adds_of_create (free : d.isTaken path = false) (created : d.create path text = .ok d') :
    (∃ p, d.Adds d' text p) ∧ d'.isTaken path = true := by
  obtain ⟨folder, name, found, open_path, untaken, -, rfl⟩ := create_eq_ok_iff.1 created
  obtain ⟨proper, fit⟩ := proper_of_approach found
  have spot := proper.step fit
  have adds : d.Adds { d with files := d.files ++ [((folder.step name).path, text)] } text
      (folder.step name) := by
    refine ⟨spot, ⟨?_, untaken⟩, rfl, rfl⟩
    unfold isTaken at free
    simp only [found, open_path, untaken, Bool.false_or, Bool.not_false, Bool.and_true] at free
    exact free
  refine ⟨⟨_, adds⟩, ?_⟩
  unfold isTaken
  simp only [approach_of_extends adds.extends found, open_path, Bool.not_false, Bool.and_true]
  have there : ({ d with files := d.files ++ [((folder.step name).path, text)] } : Directory).isFile
      (folder.step name) = true := by
    simp [isFile, Spot.ofPath_path spot]
  rw [there, Bool.or_true]

/-- What commands with one secret key make of a directory. -/
inductive Grows (fresh : String) (d : Directory) : Directory → Prop
  | same : Grows fresh d d
  | more {d' d'' : Directory} {enforce : Bool} {p : Spot} (grows : Grows fresh d d')
    (adds : d'.Adds d'' (EnvFile.template fresh enforce) p) : Grows fresh d d''

section Grows
variable {fresh : String}

theorem Grows.trans {d'' : Directory} (first : d.Grows fresh d') (next : d'.Grows fresh d'') :
    d.Grows fresh d'' := by
  induction next with
  | same => exact first
  | more _ adds ih => exact .more ih adds

theorem Grows.extends (grows : d.Grows fresh d') : d.Extends d' := by
  induction grows with
  | same => exact .refl d
  | more _ adds ih => exact ih.trans adds.extends

/-- All new files are from the template, and follow the old ones. -/
theorem files_of_grows (grows : d.Grows fresh d') : ∃ added, d'.files = d.files ++ added ∧
    ∀ f ∈ added, ∃ enforce, f.2 = EnvFile.template fresh enforce := by
  induction grows with
  | same => exact ⟨[], by simp, nofun⟩
  | @more _ _ enforce p _ adds ih =>
    obtain ⟨added, files, new⟩ := ih
    refine ⟨added ++ [(p.path, EnvFile.template fresh enforce)], ?_, ?_⟩
    · rw [adds.files, files, List.append_assoc]
    · rw [List.forall_mem_append, List.forall_mem_singleton]
      exact ⟨new, enforce, rfl⟩

/-- No path is used for two files, unless it was from the beginning. -/
theorem nodup_of_grows (grows : d.Grows fresh d') (distinct : (d.files.map Prod.fst).Nodup) :
    (d'.files.map Prod.fst).Nodup := by
  induction grows with
  | same => exact distinct
  | @more d' _ _ p _ adds ih =>
    rw [adds.files, List.map_append, List.map_singleton, List.nodup_append]
    refine ⟨ih, by simp, ?_⟩
    rintro path mem _ last rfl
    obtain ⟨f, there, rfl⟩ := List.mem_map.1 mem
    have taken : d'.isFile p = true := by
      refine List.any_eq_true.2 ⟨f, there, ?_⟩
      rw [List.mem_singleton.1 last, Spot.ofPath_path adds.proper]
      simp
    rw [adds.free.1] at taken
    cases taken

end Grows
end Directory

/-! ## Commands -/

namespace Command
open Directory
variable {x : Context} {d : Directory} {tally : Tally}

/-- What one command does to the directory: nothing, unless it is to generate a file, the advice lets it
run, and the path is free. -/
inductive Effect (x : Context) (d : Directory) : Plan → Run → Directory → Prop
  | none (plan : Plan) (r : Run) : Effect x d plan r d
  | generated {m : Manner} {path report out : String} {enforce : Bool} {p : Spot} {d' : Directory}
    (advised : preliminary x.settings m = .ok report) (free : d.isTaken path = false)
    (adds : d.Adds d' (EnvFile.template x.fresh enforce) p) (taken : d'.isTaken path = true) :
    Effect x d (.generate m path enforce) ⟨out, report, .exit 0⟩ d'

theorem generate_cases (p : Paint) (fresh path : String) (enforce : Bool) (d : Directory) :
    (generate p fresh path enforce d).2 = d ∨ ∃ out d', d.isTaken path = false ∧
      d.create path (EnvFile.template fresh enforce) = .ok d' ∧
        generate p fresh path enforce d = (.ok out, d') := by
  unfold generate
  cases taken : d.isTaken path with
  | true => exact .inl rfl
  | false =>
    cases created : d.create path (EnvFile.template fresh enforce) with
    | error f => exact .inl rfl
    | ok d' => exact .inr ⟨_, d', rfl, rfl, rfl⟩

theorem run_cases (x : Context) (plan : Plan) (d : Directory) (tally : Tally) :
    Effect x d plan (run x plan d tally).1.1 (run x plan d tally).1.2 := by
  cases plan with
  | generate m path enforce =>
    show Effect x d _ (afterChecks x.settings m d (generate m.forceColor x.fresh path enforce d)).1
      (afterChecks x.settings m d (generate m.forceColor x.fresh path enforce d)).2
    unfold afterChecks
    cases advised : preliminary x.settings m with
    | error f => exact .none _ _
    | ok report =>
      dsimp only
      rcases generate_cases m.forceColor x.fresh path enforce d with
        same | ⟨out, d', free, created, done⟩
      · rw [same]
        exact .none _ _
      · obtain ⟨⟨p, adds⟩, taken⟩ := adds_of_create free created
        rw [done]
        exact .generated advised free adds taken
  | _ => exact .none _ _

theorem Effect.grows {plan : Plan} {r : Run} {d' : Directory} (effect : Effect x d plan r d') :
    d.Grows x.fresh d' := by
  cases effect with
  | none => exact .same
  | generated _ _ adds => exact .more .same adds

/-- Commands one after the other only ever add new environment files. -/
theorem grows_runAll (x : Context) (plans : List Plan) (d : Directory) (tally : Tally) :
    d.Grows x.fresh (runAll x plans d tally).2 := by
  induction plans generalizing d tally with
  | nil => exact .same
  | cons plan plans ih => exact (run_cases x plan d tally).grows.trans (ih _ _)

theorem generate_of_taken {p : Paint} {fresh path : String} {enforce : Bool} (taken : d.isTaken path = true) :
    generate p fresh path enforce d =
      (.ok (withLineEnd (p.apply .warning (path ++ " already exists! Not overwriting."))), d) := by
  unfold generate
  rw [if_pos taken]

/-- What a command has generated at a path is there after any other commands, and keeps every later one from
generating anything at that path. -/
theorem generate_stays {m : Manner} {path : String} {enforce : Bool}
    (made : (run x (.generate m path enforce) d tally).1.2 ≠ d) (plans : List Plan) (tally' : Tally)
    (p : Paint) (fresh : String) (again : Bool) :
    let d' := (runAll x plans (run x (.generate m path enforce) d tally).1.2 tally').2
    generate p fresh path again d' =
      (.ok (withLineEnd (p.apply .warning (path ++ " already exists! Not overwriting."))), d') := by
  have first := run_cases x (.generate m path enforce) d tally
  generalize (run x (.generate m path enforce) d tally).1.1 = r at first
  generalize (run x (.generate m path enforce) d tally).1.2 = next at first made
  have taken : next.isTaken path = true := by
    cases first with
    | none => exact absurd rfl made
    | generated _ _ _ taken => exact taken
  exact generate_of_taken (isTaken_of_extends (grows_runAll x plans next tally').extends taken)

end Command
end CertGate
