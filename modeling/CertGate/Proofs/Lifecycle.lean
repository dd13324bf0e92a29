import CertGate.Gate
import CertGate.Proofs.Verdict

/-!
# The life of a gate

A gate is made with a configuration or without one. From then on it may be started, asked, closed and
left, any number of times and in any order.

* `OnlyForeign` : a result that fails, if at all, with a failure that is none of a gate's. A gate that is
  ready fails in no other way (`onlyForeign_verdict`), never for its state;
* `start_of_ok`, `start_of_error` : the two ways in which the first start of a gate ends, each with one
  question to its provider (`after_configure`, `after_resolveFlag`), a failure being one of the start
  unless the provider ends the process (`kind_of_configure`);
* `Operation`, `Gate.perform`, `Gate.history` : one operation, and many in a row, each kept as a
  `Passage`;
* `Gate.Coherent` : a gate has a configuration when it is ready, and none before. It is so of new gates
  (`coherent_ofConfig?`), and every operation keeps it;
* `Gate.Advances` : how the state of a gate may change, which goes on from one operation to the next
  (`Advances.trans`);
* `Passage.Lawful`, `Passage.Precedes` : what one operation keeps to, and two of them one after the
  other;
* `history_lawful` : whatever is done with a gate, all of it is lawful.
-/

namespace CertGate

/-! ## Failures of a gate that is ready -/

/-- A result that fails, if at all, neither for the state of a gate nor because a gate cannot start, and
without an end of the process. -/
def OnlyForeign {α : Type} (m : Except Failure α) : Prop :=
  ∀ f, m = .error f → f.kind ≠ .gateState ∧ f.kind ≠ .fatal ∧ f.kind ≠ .exit

section Foreign
variable {α β : Type}

theorem onlyForeign_ok (a : α) : OnlyForeign (.ok a) := nofun

theorem onlyForeign_error {f : Failure}
    (foreign : f.kind ≠ .gateState ∧ f.kind ≠ .fatal ∧ f.kind ≠ .exit) :
    OnlyForeign (.error f : Except Failure α) := by
  rintro _ ⟨⟩
  exact foreign

theorem onlyForeign_result (r : Except Fault α) : OnlyForeign (Fault.result r) := by
  cases r with
  | ok a => exact onlyForeign_ok a
  | error f => exact onlyForeign_error f.foreign

theorem OnlyForeign.bind {m : Except Failure α} {next : α → Except Failure β} (first : OnlyForeign m)
    (rest : ∀ a, OnlyForeign (next a)) : OnlyForeign (m >>= next) := by
  cases m with
  | ok a => exact rest a
  | error f =>
    rintro _ ⟨⟩
    exact first f rfl

theorem OnlyForeign.ite {c : Prop} [Decidable c] {m n : Except Failure α} (first : OnlyForeign m)
    (second : OnlyForeign n) : OnlyForeign (if c then m else n) := by
  split
  · exact first
  · exact second

theorem onlyForeign_mapM {f : α → Except Failure β} (each : ∀ a, OnlyForeign (f a)) (as : List α) :
    OnlyForeign (as.mapM f) := by
  induction as with
  | nil => exact onlyForeign_ok []
  | cons a as ih =>
    rw [List.mapM_cons]
    exact (each a).bind fun b => ih.bind fun bs => onlyForeign_ok _

theorem onlyForeign_anyPasses {test : Value → Except Failure Bool} (each : ∀ v, OnlyForeign (test v))
    (vs : List Value) : OnlyForeign (anyPasses test vs) := by
  induction vs with
  | nil => exact onlyForeign_ok _
  | cons v vs ih => exact (each v).bind fun fits => .ite (onlyForeign_ok _) ih

theorem onlyForeign_items (v : Value) : OnlyForeign v.items := by
  cases v with
  | object o => exact onlyForeign_mapM onlyForeign_result _
  | text _ | octets _ | list _ | tuple _ | set _ | mapping _ => exact onlyForeign_ok _
  | _ => exact onlyForeign_error ⟨nofun, nofun, nofun⟩

theorem onlyForeign_first (v : Value) : OnlyForeign v.first := by
  cases v with
  | object o => exact (onlyForeign_result o.first).bind fun v => onlyForeign_ok _
  | text _ | octets _ | list _ | tuple _ => exact onlyForeign_ok _
  | _ => exact onlyForeign_error ⟨nofun, nofun, nofun⟩

theorem onlyForeign_textBeginsItem (p : String) (v : Value) : OnlyForeign (textBeginsItem p v) := by
  unfold textBeginsItem
  split
  · exact onlyForeign_ok _
  · exact onlyForeign_error ⟨nofun, nofun, nofun⟩

theorem onlyForeign_octetsBeginItem (p : List UInt8) (v : Value) :
    OnlyForeign (octetsBeginItem p v) := by
  unfold octetsBeginItem
  split
  · exact onlyForeign_ok _
  · exact onlyForeign_error ⟨nofun, nofun, nofun⟩

theorem onlyForeign_beginsWith (path entry : Value) : OnlyForeign (path.beginsWith entry) := by
  cases path with
  | text p =>
    show OnlyForeign (textBegins p entry)
    unfold textBegins
    split
    · exact onlyForeign_ok _
    · exact onlyForeign_anyPasses (onlyForeign_textBeginsItem p) _
    · exact onlyForeign_error ⟨nofun, nofun, nofun⟩
  | octets p =>
    show OnlyForeign (octetsBegin p entry)
    unfold octetsBegin
    split
    · exact onlyForeign_ok _
    · exact onlyForeign_anyPasses (onlyForeign_octetsBeginItem p) _
    · exact onlyForeign_error ⟨nofun, nofun, nofun⟩
  | object o => exact onlyForeign_result _
  | _ => exact onlyForeign_error ⟨nofun, nofun, nofun⟩

theorem onlyForeign_sameObject (o : Object) (v : Value) : OnlyForeign (Value.sameObject o v) := by
  unfold Value.sameObject
  split
  · exact .ite (onlyForeign_ok _) (onlyForeign_result _)
  · exact onlyForeign_result _

mutual

theorem onlyForeign_same (v w : Value) : OnlyForeign (Value.same v w) := by
  unfold Value.same
  split
  · exact .ite (onlyForeign_sameItems _ _) (onlyForeign_ok _)
  · exact onlyForeign_sameItems _ _
  · exact onlyForeign_ok _
  · exact .ite (onlyForeign_sameEntries _ _) (onlyForeign_ok _)
  · exact onlyForeign_sameObject _ _
  · exact onlyForeign_result _
  · exact onlyForeign_ok _

theorem onlyForeign_sameItems (vs ws : List Value) : OnlyForeign (Value.sameItems vs ws) := by
  unfold Value.sameItems
  split
  · exact onlyForeign_ok _
  · exact (onlyForeign_same _ _).bind fun equal => .ite (onlyForeign_sameItems _ _) (onlyForeign_ok _)
  · exact onlyForeign_ok _

theorem onlyForeign_sameEntries (vs ws : List (String × Value)) :
    OnlyForeign (Value.sameEntries vs ws) := by
  unfold Value.sameEntries
  split
  · exact onlyForeign_ok _
  · split
    · exact (onlyForeign_same _ _).bind fun equal =>
        .ite (onlyForeign_sameEntries _ _) (onlyForeign_ok _)
    · exact onlyForeign_ok _

end

theorem onlyForeign_get? (key : Value) (entries : List (String × Value)) :
    OnlyForeign (key.get? entries) := by
  unfold Value.get?
  split
  · exact (onlyForeign_result _).bind fun within => onlyForeign_ok _
  · exact onlyForeign_error ⟨nofun, nofun, nofun⟩
  · exact onlyForeign_ok _
  · exact onlyForeign_ok _

theorem onlyForeign_isInSet (needle : Value) (items : List Value) :
    OnlyForeign (needle.isInSet items) := by
  unfold Value.isInSet
  split
  · exact onlyForeign_result _
  · exact onlyForeign_ok _
  · exact onlyForeign_ok _
  · exact onlyForeign_error ⟨nofun, nofun, nofun⟩

theorem onlyForeign_octetIsIn (n : Int) (bs : List UInt8) : OnlyForeign (Value.octetIsIn n bs) :=
  .ite (onlyForeign_ok _) (onlyForeign_error ⟨nofun, nofun, nofun⟩)

theorem onlyForeign_isIn (needle v : Value) : OnlyForeign (Value.isIn needle v) := by
  cases v with
  | text s =>
    cases needle with
    | text part => exact onlyForeign_ok _
    | _ => exact onlyForeign_error ⟨nofun, nofun, nofun⟩
  | octets bs =>
    cases needle with
    | octets part => exact onlyForeign_ok _
    | int n => exact onlyForeign_octetIsIn n bs
    | bool b => exact onlyForeign_octetIsIn _ bs
    | object o => exact onlyForeign_result _
    | _ => exact onlyForeign_error ⟨nofun, nofun, nofun⟩
  | list items | tuple items =>
    cases needle with
    | object o => exact onlyForeign_result _
    | _ => exact onlyForeign_anyPasses (onlyForeign_same _) items
  | set items => exact onlyForeign_isInSet needle items
  | mapping entries =>
    cases needle with
    | object o => exact onlyForeign_result _
    | _ => exact (onlyForeign_get? _ entries).bind fun v? => onlyForeign_ok _
  | object o => exact onlyForeign_result _
  | _ => exact onlyForeign_error ⟨nofun, nofun, nofun⟩

theorem onlyForeign_entries (c : Config) {steps : List (Except Failure Value)}
    (given : c.entries = .ok steps) : ∀ step ∈ steps, OnlyForeign step := by
  unfold Config.entries at given
  split at given
  · cases given
    rw [List.forall_mem_map]
    exact fun step _ => onlyForeign_result step
  · obtain ⟨items, -, ⟨⟩⟩ := bind_eq_ok_iff.1 given
    rw [List.forall_mem_map]
    exact fun v _ => onlyForeign_ok v

theorem onlyForeign_anyBegins (path : Value) {steps : List (Except Failure Value)}
    (each : ∀ step ∈ steps, OnlyForeign step) : OnlyForeign (anyBegins path steps).result := by
  induction steps with
  | nil => exact onlyForeign_ok _
  | cons step rest ih =>
    obtain ⟨first, others⟩ := List.forall_mem_cons.1 each
    rw [anyBegins, Logged.result_bind, Logged.result_liftM]
    refine first.bind fun entry => ?_
    rw [Logged.result_bind, Logged.result_liftM]
    refine (onlyForeign_beginsWith path entry).bind fun fits => ?_
    rw [Logged.result_ite]
    exact .ite (onlyForeign_ok _) (ih others)

theorem onlyForeign_inScope (c : Config) (path : Value) : OnlyForeign (inScope c path).result := by
  unfold inScope
  rw [Logged.result_ite]
  refine .ite (onlyForeign_ok _) ?_
  rw [Logged.result_bind, Logged.result_liftM]
  cases given : c.entries with
  | ok steps => exact onlyForeign_anyBegins path (onlyForeign_entries c given)
  | error f =>
    rintro _ ⟨⟩
    unfold Config.entries at given
    split at given
    · cases given
    · exact onlyForeign_items _ _ ((bind_eq_error_iff.1 given).resolve_right (by simp))

theorem onlyForeign_subjectAccepted (part : Value) (leaf : Record) :
    OnlyForeign (subjectAccepted part leaf).result := by
  rw [result_subjectAccepted]
  refine .ite (onlyForeign_ok _) ?_
  cases leaf.subject with
  | error f => exact onlyForeign_ok _
  | ok subject => exact onlyForeign_isIn part subject

theorem onlyForeign_leaf (chain : Chain) : OnlyForeign chain.leaf := by
  cases chain with
  | records rs => exact onlyForeign_ok _
  | passing steps => exact onlyForeign_error ⟨nofun, nofun, nofun⟩
  | value v => exact .ite ((onlyForeign_first v).bind fun v? => onlyForeign_ok _) (onlyForeign_ok _)

theorem onlyForeign_accepts (c : Config) (chain : Chain) (now : Timestamp) :
    OnlyForeign (accepts c chain now).result := by
  unfold accepts
  rw [Logged.result_bind, Logged.result_liftM]
  refine (onlyForeign_leaf chain).bind fun leaf? => ?_
  cases leaf? with
  | none => exact onlyForeign_ok _
  | some leaf =>
    -- whatever the record's own check fails with is a reason to reject
    cases h : leaf.checkValidity now with
    | error f => simp only [h]; exact onlyForeign_ok _
    | ok u => simp only [h]; exact onlyForeign_subjectAccepted _ leaf

theorem onlyForeign_verdict (c : Config) (path : Value) (chain : Chain) (now : Timestamp) :
    OnlyForeign (verdict c path chain now).result := by
  unfold verdict
  rw [Logged.result_ite]
  refine .ite (onlyForeign_ok _) ?_
  rw [Logged.result_bind]
  refine (onlyForeign_inScope c path).bind fun inside => ?_
  rw [Logged.result_ite]
  refine .ite (onlyForeign_ok _) ?_
  rw [Logged.result_bind, Logged.result_tell, ok_bind, Logged.result_bind]
  refine (onlyForeign_accepts c chain now).bind fun accepted => ?_
  cases accepted <;> exact onlyForeign_ok _

end Foreign

/-! ## Starts -/

section Options

theorem onlyForeign_trim (v : Value) : OnlyForeign v.trim := by
  cases v with
  | text _ | octets _ => exact onlyForeign_ok _
  | object o => exact onlyForeign_result _
  | _ => exact onlyForeign_error ⟨nofun, nofun, nofun⟩

theorem onlyForeign_mounted (mount : Value) (rest : Trimmed) : OnlyForeign (mounted mount rest) := by
  cases rest with
  | text s =>
    show OnlyForeign (mountedText mount s)
    cases mount with
    | text _ => exact onlyForeign_ok _
    | object o => exact onlyForeign_result _
    | _ => exact onlyForeign_error ⟨nofun, nofun, nofun⟩
  | octets bs =>
    show OnlyForeign (mountedOctets mount bs)
    cases mount with
    | octets _ => exact onlyForeign_ok _
    | object o => exact onlyForeign_result _
    | _ => exact onlyForeign_error ⟨nofun, nofun, nofun⟩
  | other behind _ => exact onlyForeign_result _

theorem onlyForeign_mountedEntry (mount entry : Value) : OnlyForeign (mountedEntry mount entry) :=
  (onlyForeign_trim entry).bind fun rest => onlyForeign_mounted mount rest

theorem onlyForeign_pathEntries (paths : Value) : OnlyForeign (pathEntries paths) := by
  unfold pathEntries
  split
  · exact onlyForeign_ok _
  · exact onlyForeign_items paths

theorem onlyForeign_enforcedPaths (paths mount : Value) : OnlyForeign (enforcedPaths paths mount) := by
  unfold enforcedPaths
  split
  · exact onlyForeign_mapM
      (fun step => (onlyForeign_result step).bind fun entry => onlyForeign_mountedEntry mount entry) _
  · exact (onlyForeign_pathEntries paths).bind fun entries =>
      onlyForeign_mapM (onlyForeign_mountedEntry mount) entries

theorem onlyForeign_scope (o : StartOptions) : OnlyForeign o.scope := by
  refine .ite (onlyForeign_ok _) fun f fails => ?_
  exact onlyForeign_enforcedPaths _ _ f (map_eq_error_iff.1 fails)

theorem onlyForeign_enforcing (flag : Bool) (o : StartOptions) :
    OnlyForeign (if flag then (enforcingConfig o).result else .ok .off) := by
  refine .ite (fun f fails => ?_) (onlyForeign_ok _)
  rw [result_enforcingConfig] at fails
  exact onlyForeign_scope o f (map_eq_error_iff.1 fails)

end Options

/-- The key of the script that a provider plays when it is asked or called, if it plays one. -/
def Value.script? : Value → Option Nat
  | .provider (.callable key _) | .provider (.strategy key _)
  | .provider (.holder (.provider (.callable key _))) => some key
  | _ => none

section Start
variable {s : Settings} {provider : Value} {o : StartOptions} {tally : Tally} {key : Nat}

theorem after_script (key : Nat) (answers : List Answer) (tally : Tally) :
    (Asking.script key answers).after tally = key :: tally := by
  show (Asking.script key answers tally).2 = _
  unfold Asking.script
  cases Answer.nth answers (tally.count key) <;> rfl

theorem asked?_of_script (script : provider.script? = some key) :
    ∃ answers, provider.asked? s = some (.script key answers) := by
  unfold Value.script? at script
  split at script <;> cases script <;> exact ⟨_, rfl⟩

theorem resolveFlag_of_asked {ask : Asking Value} (asked : provider.asked? s = some ask) (tally : Tally) :
    (resolveFlag s provider).answer tally = ask.answer tally >>= Flag.read provider.show ∧
      (resolveFlag s provider).after tally = ask.after tally := by
  have resolve : resolveFlag s provider =
      ask >>= fun v => (liftM (Flag.read provider.show v) : Asking Bool) := by
    unfold resolveFlag
    rw [asked]
  rw [resolve, Asking.answer_bind, Asking.after_bind_of_silent fun v => Asking.after_liftM _]
  exact ⟨rfl, rfl⟩

/-- The flag costs one question. -/
theorem after_resolveFlag (script : provider.script? = some key) :
    (resolveFlag s provider).after tally = key :: tally := by
  obtain ⟨answers, asked⟩ := @asked?_of_script s _ _ script
  rw [(resolveFlag_of_asked asked tally).2, after_script]

/-- Nobody is asked for anything but the flag. -/
theorem after_configure (s : Settings) (provider : Value) (o : StartOptions) (tally : Tally) :
    (configure s provider o).after tally = (resolveFlag s provider).after tally := by
  unfold configure
  rw [Asking.after_mapFailure, Asking.after_bind, Asking.answer_liftM_logged, Logged.result_tell]
  dsimp only
  rw [Asking.after_liftM_logged]
  refine Asking.after_bind_of_silent (fun flag tally => ?_) tally
  rw [Asking.after_bind, Asking.answer_liftM_logged, Logged.result_tell]
  cases flag <;> rfl

theorem start_of_ok {c : Config} (h : (configure s provider o).answer tally = .ok c) :
    Gate.uninitialized.start s provider o tally =
      ((⟨(configure s provider o tally).1.log, .ok c⟩, .ready c),
        (configure s provider o).after tally) := by
  change (configure s provider o tally).1.result = .ok c at h
  unfold Gate.start Asking.after
  generalize configure s provider o tally = m at h ⊢
  obtain ⟨⟨log, result⟩, after⟩ := m
  cases h
  rfl

theorem start_of_error {f : Failure} (h : (configure s provider o).answer tally = .error f) :
    Gate.uninitialized.start s provider o tally =
      ((⟨(configure s provider o tally).1.log, .error f⟩, .uninitialized),
        (configure s provider o).after tally) := by
  change (configure s provider o tally).1.result = .error f at h
  unfold Gate.start Asking.after
  generalize configure s provider o tally = m at h ⊢
  obtain ⟨⟨log, result⟩, after⟩ := m
  cases h
  rfl

/-- A start fails as one, unless its provider ends the process. -/
theorem kind_of_configure {f : Failure} (h : (configure s provider o).answer tally = .error f) :
    f.kind = .fatal ∨ f.kind = .exit ∧ (resolveFlag s provider).answer tally = .error f := by
  rw [answer_configure, mapError_eq_error_iff] at h
  obtain ⟨cause, fails, rfl⟩ := h
  by_cases ends : cause.kind = .exit
  · rw [Failure.reportedAs_of_exit ends]
    rcases bind_eq_error_iff.1 fails with unasked | ⟨flag, -, unmade⟩
    · exact .inr ⟨ends, unasked⟩
    · exact absurd ends (onlyForeign_enforcing flag o cause unmade).2.2
  · rw [Failure.reportedAs_of_ne_exit ends]
    exact .inl rfl

theorem configure_of_exit {f : Failure} (ends : f.kind = .exit)
    (unasked : (resolveFlag s provider).answer tally = .error f) :
    (configure s provider o).answer tally = .error f := by
  rw [answer_configure, unasked, error_bind]
  exact congrArg Except.error (Failure.reportedAs_of_exit ends _)

end Start

/-! ## Operations -/

def Phase.rank : Phase → Nat
  | uninitialized => 0
  | ready => 1
  | shutDown => 2

instance : LE Phase := ⟨fun p q => p.rank ≤ q.rank⟩

/-- A gate that is ready has a configuration, and one that has not been started has none. -/
structure Gate.Coherent (g : Gate) : Prop where
  ready : g.phase = .ready → ∃ c, g.config? = some c
  uninitialized : g.phase = .uninitialized → g.config? = none

/-- What can be done with a gate. Settings, path, chain and clock are those of the moment. -/
inductive Operation
  | start (s : Settings) (provider : Value) (o : StartOptions)
  | evaluate (path : Value) (chain : Chain) (now : Timestamp)
  | close
  /-- The end of a block that holds the gate, brought about by a failure or not. -/
  | leave (failure? : Option Failure)

/-- What an operation gives. -/
inductive Reply
  | started (c : Config)
  | decided (v : Verdict)
  | closed
  /-- The block has ended, and `heldBack` says whether a failure ends with it. -/
  | left (heldBack : Bool)

/-- One operation on a gate, as it went. -/
structure Passage where
  before : Gate
  askedBefore : Tally
  operation : Operation
  outcome : Except Failure Reply
  after : Gate
  askedAfter : Tally

namespace Gate

/-- One operation. Leaving a block closes its gate and holds no failure back. -/
def perform (g : Gate) (tally : Tally) : Operation → Passage
  | .start s provider o =>
    let ((r, g'), tally') := g.start s provider o tally
    ⟨g, tally, .start s provider o, .started <$> r.result, g', tally'⟩
  | .evaluate path chain now =>
    ⟨g, tally, .evaluate path chain now, .decided <$> (g.evaluate path chain now).result, g, tally⟩
  | .close => ⟨g, tally, .close, .ok .closed, g.close, tally⟩
  | .leave failure? => ⟨g, tally, .leave failure?, .ok (.left false), g.close, tally⟩

/-- Operations one after the other. -/
def history (g : Gate) (tally : Tally) : List Operation → List Passage
  | [] => []
  | op :: ops =>
    let p := g.perform tally op
    p :: p.after.history p.askedAfter ops

end Gate

/-- How the state of a gate may change: it moves forward up to its end, and a configuration stays. -/
structure Gate.Advances (g g' : Gate) : Prop where
  forward : g.phase ≤ g'.phase
  final : g.phase = .shutDown → g' = g
  keeps : ∀ c, g.config? = some c → g'.config? = some c

/-- What a single operation keeps to. -/
structure Passage.Lawful (p : Passage) : Prop where
  coherent_before : p.before.Coherent
  coherent_after : p.after.Coherent
  advances : p.before.Advances p.after
  started : ∀ c, p.outcome = .ok (.started c) →
    p.before.phase = .uninitialized ∧ p.after.phase = .ready ∧ p.after.config? = some c
  /-- A start that fails changes nothing. -/
  unstarted : ∀ s provider o f, p.operation = .start s provider o → p.outcome = .error f →
    p.after = p.before
  /-- Whatever goes wrong in the start of a new gate, it is the start that has failed. Only a provider
  that ends the process is not held up. -/
  fatal : ∀ s provider o f, p.operation = .start s provider o → p.before.phase = .uninitialized →
    p.outcome = .error f →
      f.kind = .fatal ∨
        f.kind = .exit ∧ (resolveFlag s provider).answer p.askedBefore = .error f
  /-- A gate whose options were no good may be started with others. -/
  startable : ∀ f, p.outcome = .error f → f.kind = .fatal →
    ∃ op c, ∀ tally, (p.after.perform tally op).outcome = .ok (.started c)
  /-- A gate is started once, and nobody is asked for a second start. -/
  refused : ∀ s provider o, p.operation = .start s provider o → p.before.phase ≠ .uninitialized →
    (∃ f, p.outcome = .error f ∧ f.kind = .gateState) ∧ p.askedAfter = p.askedBefore
  asked_once : ∀ s provider o key, p.operation = .start s provider o →
    p.before.phase = .uninitialized → provider.script? = some key →
    p.askedAfter = key :: p.askedBefore
  undecided : ∀ path chain now, p.operation = .evaluate path chain now →
    ((∃ f, p.outcome = .error f ∧ f.kind = .gateState) ↔ p.before.phase ≠ .ready)
  unmoved : ∀ path chain now, p.operation = .evaluate path chain now → p.after = p.before
  /-- Closing and leaving end it, and nothing goes wrong in them. -/
  ended : p.operation = .close ∨ (∃ failure?, p.operation = .leave failure?) →
    (∃ reply, p.outcome = .ok reply) ∧ p.after.phase = .shutDown ∧
      p.after.config? = p.before.config? ∧ p.askedAfter = p.askedBefore

/-- What two operations keep to, the first of which comes earlier. -/
structure Passage.Precedes (p q : Passage) : Prop where
  advances : p.after.Advances q.before
  once : ∀ c c', p.outcome = .ok (.started c) → q.outcome ≠ .ok (.started c')

/-! ## Every operation is lawful -/

namespace Gate
variable {g g' g'' : Gate} {tally : Tally}

theorem Advances.refl (g : Gate) : g.Advances g :=
  ⟨Nat.le_refl g.phase.rank, fun _ => rfl, fun _ h => h⟩

theorem Advances.trans (h : g.Advances g') (h' : g'.Advances g'') : g.Advances g'' where
  forward := Nat.le_trans (m := g'.phase.rank) h.forward h'.forward
  final ended := by
    obtain rfl := h.final ended
    exact h'.final ended
  keeps c has := h'.keeps c (h.keeps c has)

theorem advances_ready (c : Config) : uninitialized.Advances (ready c) :=
  ⟨Nat.le_of_ble_eq_true rfl, nofun, nofun⟩

theorem advances_close (g : Gate) : g.Advances g.close where
  forward := by
    show g.phase.rank ≤ 2
    cases g.phase <;> decide
  final ended := by rw [close, ← ended]
  keeps _ h := h

theorem coherent_uninitialized : uninitialized.Coherent := ⟨nofun, fun _ => rfl⟩

theorem coherent_ready (c : Config) : (ready c).Coherent := ⟨fun _ => ⟨c, rfl⟩, nofun⟩

theorem coherent_close (g : Gate) : g.close.Coherent := ⟨nofun, nofun⟩

theorem coherent_ofConfig? (c? : Option Config) : (ofConfig? c?).Coherent := by
  cases c? with
  | none => exact coherent_uninitialized
  | some c => exact coherent_ready c

theorem Coherent.eq_uninitialized (coherent : g.Coherent) (h : g.phase = .uninitialized) :
    g = .uninitialized := by
  obtain ⟨config?, phase⟩ := g
  obtain rfl : phase = .uninitialized := h
  obtain rfl : config? = none := coherent.uninitialized rfl
  rfl

theorem Coherent.eq_ready (coherent : g.Coherent) (h : g.phase = .ready) : ∃ c, g = .ready c := by
  obtain ⟨config?, phase⟩ := g
  obtain rfl : phase = .ready := h
  obtain ⟨c, rfl⟩ : ∃ c, config? = some c := coherent.ready rfl
  exact ⟨c, rfl⟩

theorem perform_start_of_ok {s : Settings} {provider : Value} {o : StartOptions} {c : Config}
    (h : (configure s provider o).answer tally = .ok c) :
    uninitialized.perform tally (.start s provider o) =
      ⟨uninitialized, tally, .start s provider o, .ok (.started c), .ready c,
        (configure s provider o).after tally⟩ := by
  simp only [perform, start_of_ok h, map_ok]

theorem perform_start_of_error {s : Settings} {provider : Value} {o : StartOptions} {f : Failure}
    (h : (configure s provider o).answer tally = .error f) :
    uninitialized.perform tally (.start s provider o) =
      ⟨uninitialized, tally, .start s provider o, .error f, uninitialized,
        (configure s provider o).after tally⟩ := by
  simp only [perform, start_of_error h, map_error]

theorem perform_start_of_begun (h : g.phase ≠ .uninitialized) (s : Settings) (provider : Value)
    (o : StartOptions) :
    g.perform tally (.start s provider o) =
      ⟨g, tally, .start s provider o, .error (.alreadyStarted g.stateName), g, tally⟩ := by
  have refused : g.start s provider o tally = ((.fail (.alreadyStarted g.stateName), g), tally) := by
    unfold start
    split
    · next fresh => exact absurd fresh h
    · rfl
  simp only [perform, refused]
  rfl

theorem startable_uninitialized :
    ∃ op c, ∀ tally, (uninitialized.perform tally op).outcome = .ok (.started c) :=
  ⟨.start ⟨none, .null, [], emptyLibrary⟩ (.provider (.fixed (.bool false))) ⟨.null, .null, .null⟩,
    .off, fun _ => rfl⟩

theorem perform_start_lawful (coherent : g.Coherent) (s : Settings) (provider : Value)
    (o : StartOptions) : (g.perform tally (.start s provider o)).Lawful := by
  by_cases begun : g.phase = .uninitialized
  · obtain rfl := coherent.eq_uninitialized begun
    cases h : (configure s provider o).answer tally with
    | ok c =>
      rw [perform_start_of_ok h]
      refine ⟨coherent, coherent_ready c, advances_ready c, ?_, nofun, nofun, nofun, ?_, ?_, nofun,
        nofun, nofun⟩
      · rintro _ ⟨⟩
        exact ⟨rfl, rfl, rfl⟩
      · intro _ _ _ _ again
        exact absurd rfl again
      · rintro _ _ _ key ⟨⟩ - script
        exact (after_configure _ _ _ _).trans (after_resolveFlag script)
    | error f =>
      rw [perform_start_of_error h]
      refine ⟨coherent, coherent, .refl _, nofun, fun _ _ _ _ _ _ => rfl, ?_,
        fun _ _ _ => startable_uninitialized, ?_, ?_, nofun, nofun, nofun⟩
      · rintro _ _ _ _ ⟨⟩ - ⟨⟩
        exact kind_of_configure h
      · intro _ _ _ _ again
        exact absurd rfl again
      · rintro _ _ _ key ⟨⟩ - script
        exact (after_configure _ _ _ _).trans (after_resolveFlag script)
  · rw [perform_start_of_begun begun]
    refine ⟨coherent, coherent, .refl _, nofun, fun _ _ _ _ _ _ => rfl, ?_, ?_,
      fun _ _ _ _ _ => ⟨⟨_, rfl, rfl⟩, rfl⟩, ?_, nofun, nofun, nofun⟩
    · intro _ _ _ _ _ fresh
      exact absurd fresh begun
    · rintro _ ⟨⟩ ⟨⟩
    · intro _ _ _ _ _ fresh
      exact absurd fresh begun

theorem onlyForeign_evaluate (coherent : g.Coherent) (ready : g.phase = .ready) (path : Value)
    (chain : Chain) (now : Timestamp) : OnlyForeign (g.evaluate path chain now).result := by
  obtain ⟨c, rfl⟩ := coherent.eq_ready ready
  exact onlyForeign_verdict c path chain now

theorem evaluate_of_not_ready (h : g.phase ≠ .ready) (path : Value) (chain : Chain)
    (now : Timestamp) : g.evaluate path chain now = .fail (.notReady g.stateName) := by
  unfold evaluate
  split
  · next ready _ => exact absurd ready h
  · next ready _ => exact absurd ready h
  · rfl

/-- A gate refuses to decide exactly when it is not ready. -/
theorem evaluate_refuses_iff (coherent : g.Coherent) {path : Value} {chain : Chain}
    {now : Timestamp} :
    (∃ f, (g.evaluate path chain now).result = .error f ∧ f.kind = .gateState) ↔
      g.phase ≠ .ready := by
  constructor
  · rintro ⟨f, fails, state⟩ ready
    exact (onlyForeign_evaluate coherent ready path chain now f fails).1 state
  · intro h
    rw [evaluate_of_not_ready h]
    exact ⟨_, rfl, rfl⟩

theorem kind_of_evaluate_ne_fatal (coherent : g.Coherent) {path : Value} {chain : Chain}
    {now : Timestamp} {f : Failure} (fails : (g.evaluate path chain now).result = .error f) :
    f.kind ≠ .fatal := by
  by_cases ready : g.phase = .ready
  · exact (onlyForeign_evaluate coherent ready path chain now f fails).2.1
  · rw [evaluate_of_not_ready ready] at fails
    cases fails
    nofun

theorem perform_evaluate_lawful (coherent : g.Coherent) (path : Value) (chain : Chain)
    (now : Timestamp) : (g.perform tally (.evaluate path chain now)).Lawful := by
  let decision := (g.evaluate path chain now).result
  have outcome : (g.perform tally (.evaluate path chain now)).outcome = .decided <$> decision := rfl
  refine ⟨coherent, coherent, .refl _, ?_, nofun, nofun, ?_, nofun, nofun, ?_,
    fun _ _ _ _ => rfl, nofun⟩
  · intro c h
    rw [outcome] at h
    cases made : decision with
    | ok v => rw [made] at h; cases h
    | error f => rw [made] at h; cases h
  · intro f h fatal
    rw [outcome, map_eq_error_iff] at h
    exact absurd fatal (kind_of_evaluate_ne_fatal coherent h)
  · rintro _ _ _ ⟨⟩
    simp only [outcome, map_eq_error_iff]
    exact evaluate_refuses_iff coherent

theorem perform_lawful (coherent : g.Coherent) (tally : Tally) (op : Operation) :
    (g.perform tally op).Lawful := by
  cases op with
  | start s provider o => exact perform_start_lawful coherent s provider o
  | evaluate path chain now => exact perform_evaluate_lawful coherent path chain now
  | close =>
    exact ⟨coherent, coherent_close g, advances_close g, nofun, nofun, nofun, nofun, nofun, nofun,
      nofun, nofun, fun _ => ⟨⟨_, rfl⟩, rfl, rfl, rfl⟩⟩
  | leave failure? =>
    exact ⟨coherent, coherent_close g, advances_close g, nofun, nofun, nofun, nofun, nofun, nofun,
      nofun, nofun, fun _ => ⟨⟨_, rfl⟩, rfl, rfl, rfl⟩⟩

/-! ## Every history is lawful -/

theorem advances_history (coherent : g.Coherent) (tally : Tally) (ops : List Operation) :
    ∀ p ∈ g.history tally ops, p.Lawful ∧ g.Advances p.before := by
  induction ops generalizing g tally with
  | nil => simp [history]
  | cons op ops ih =>
    have first := perform_lawful coherent tally op
    have same : (g.perform tally op).before = g := by cases op <;> rfl
    intro p mem
    rcases List.mem_cons.1 mem with rfl | later
    · rw [same]
      exact ⟨first, .refl g⟩
    · obtain ⟨lawful, onward⟩ := ih first.coherent_after _ p later
      rw [← same]
      exact ⟨lawful, first.advances.trans onward⟩

/-- After a gate has been started it is not started again, for it never gets back to where it was. -/
theorem precedes_history (p : Passage) (lawful : p.Lawful) (tally : Tally) (ops : List Operation) :
    ∀ q ∈ p.after.history tally ops, p.Precedes q := by
  intro q mem
  obtain ⟨next, onward⟩ := advances_history lawful.coherent_after _ _ q mem
  refine ⟨onward, fun c c' started again => ?_⟩
  have forward : p.after.phase.rank ≤ q.before.phase.rank := onward.forward
  rw [(lawful.started c started).2.1, (next.started c' again).1] at forward
  exact absurd forward (by decide)

theorem precedes_pairwise (coherent : g.Coherent) (tally : Tally) (ops : List Operation) :
    (g.history tally ops).Pairwise Passage.Precedes := by
  induction ops generalizing g tally with
  | nil => exact .nil
  | cons op ops ih =>
    have first := perform_lawful coherent tally op
    exact .cons (precedes_history _ first _ ops) (ih first.coherent_after _)

/-- However a gate is made and whatever is done with it, every operation is lawful, and so are any
two of them together. -/
theorem history_lawful (c? : Option Config) (tally : Tally) (ops : List Operation) :
    (∀ p ∈ (ofConfig? c?).history tally ops, p.Lawful) ∧
      ((ofConfig? c?).history tally ops).Pairwise Passage.Precedes :=
  ⟨fun p mem => (advances_history (coherent_ofConfig? c?) tally ops p mem).1,
    precedes_pairwise (coherent_ofConfig? c?) tally ops⟩

end Gate
end CertGate
