import CertGate.Proofs.Presented
import CertGate.Proofs.Verdict

/-!
# Taking the chain out of a request

A guard takes the chain out of a request before it asks its gate, whether or not the gate enforces
anything. That does not look into certificates, but it fails for things that no server should hand
over: something attached that cannot be gone through, or a header of a proxy that cannot be unescaped.

* `Value.Listed`, `items_isOk_iff` : the values that can be gone through;
* `Value.Unescapes`, `unescape_eq_ok_iff` : the values that can be unescaped;
* `forwarded_of_unnamed`, `forwarded_of_named` : what the header of a proxy gives;
* `Request.Extractable`, `chain?_isOk_iff` : the requests whose chain can be taken out;
* `check_of_off` : what a guard that enforces nothing does, which is only that;
* `check_unenforced_iff` : with the flag off a guard is always built, rejects nobody, and lets pass all
  requests whose chain can be taken out.
-/

namespace CertGate

/-! ## Values from outside -/

/-- The values that can be gone through from end to end. -/
inductive Value.Listed : Value → Prop
  | text (s : String) : Listed (.text s)
  | octets (bs : List UInt8) : Listed (.octets bs)
  | list (items : List Value) : Listed (.list items)
  | tuple (items : List Value) : Listed (.tuple items)
  | set (items : List Value) : Listed (.set items)
  | mapping (entries : List (String × Value)) : Listed (.mapping entries)
  | object (o : Object) (complete : ∀ step ∈ o.steps, ∃ v, step = .ok v) : Listed (.object o)

theorem items_isOk_iff {v : Value} : (∃ vs, v.items = .ok vs) ↔ v.Listed := by
  cases v with
  | text s => exact iff_of_true ⟨_, rfl⟩ (.text s)
  | octets bs => exact iff_of_true ⟨_, rfl⟩ (.octets bs)
  | list items => exact iff_of_true ⟨_, rfl⟩ (.list items)
  | tuple items => exact iff_of_true ⟨_, rfl⟩ (.tuple items)
  | set items => exact iff_of_true ⟨_, rfl⟩ (.set items)
  | mapping entries => exact iff_of_true ⟨_, rfl⟩ (.mapping entries)
  | object o =>
    refine mapM_result_isOk_iff.trans ⟨.object o, ?_⟩
    rintro ⟨⟩
    assumption
  | _ => exact iff_of_false nofun nofun

/-- What a value stands for once it is unescaped: a text or octets for a text, and an object for what it
gives of itself. Nothing else can be unescaped. -/
inductive Value.Unescapes : Value → Value → Prop
  | text (s : String) : Unescapes (.text s) (.text (Percent.decode s))
  | octets (bs : List UInt8) : Unescapes (.octets bs) (.text (Percent.decodeOctets bs))
  | object (o : Object) (v : Value) (gives : o.unescaped = .ok v) : Unescapes (.object o) v

namespace Request
variable {vars : List (String × Value)} {header? : Option String}

theorem unescape_eq_ok_iff {v w : Value} : unescape v = .ok w ↔ v.Unescapes w := by
  constructor
  · intro read
    cases v with
    | text s =>
      cases read
      exact .text s
    | octets bs =>
      cases read
      exact .octets bs
    | object o => exact .object o w (mapError_eq_ok_iff.1 read)
    | _ =>
      obtain ⟨holds, -, stop⟩ := bind_eq_ok_iff.1 read
      cases holds <;> cases stop
  · rintro (_ | _ | ⟨o, _, gives⟩)
    · rfl
    · rfl
    · exact mapError_eq_ok_iff.2 gives

theorem forwarded_of_unnamed (unnamed : header? = none ∨ header? = some "") :
    forwarded vars (.ofText? header?) = .ok none := by
  rcases unnamed with rfl | rfl <;> rfl

theorem forwarded_of_named {name : String} (set : name ≠ "") :
    forwarded vars (.ofText? (some name)) =
      match given? vars name with
      | none => .ok none
      | some v => (fun w => some [recordOf w]) <$> unescape v := by
  have named : (Value.text name).isGiven = true := by simpa [Value.isGiven] using set
  have found : Value.get? (.text name) vars = .ok (vars.lookup name) := rfl
  unfold forwarded given?
  simp only [Value.ofText?, named, Bool.not_true, Bool.false_eq_true, if_false, found, ok_bind]
  cases vars.lookup name with
  | none => rfl
  | some v =>
    rw [Option.filter_some]
    dsimp only
    cases v.isGiven with
    | false => rfl
    | true =>
      simp only [if_true]
      cases unescape v <;> rfl

/-! ## Requests -/

/-- The requests whose chain can be taken out: what is attached can be gone through, or nothing is
attached and the header of a proxy can be unescaped where it is read. -/
inductive Extractable (r : Request) (header? : Option String) : Prop
  | records (rs : List Record) (attached : r.attached = .records rs)
  | passing (steps : List (Except Fault Record)) (attached : r.attached = .passing steps)
    (complete : ∀ step ∈ steps, ∃ record, step = .ok record)
  | items (v : Value) (attached : r.attached = .value v) (listed : v.Listed)
  | variables (unattached : r.attached = .value .null)
    (readable : ∀ name v, given? r.vars leafVariable = none → header? = some name → name ≠ "" →
      given? r.vars name = some v → ∃ w, v.Unescapes w)

theorem forwarded_isOk_iff :
    (∃ rs?, forwarded vars (.ofText? header?) = .ok rs?) ↔
      ∀ name v, header? = some name → name ≠ "" → given? vars name = some v → ∃ w, v.Unescapes w := by
  cases header? with
  | none => exact iff_of_true ⟨none, forwarded_of_unnamed (.inl rfl)⟩ nofun
  | some name =>
    by_cases set : name = ""
    · subst set
      refine iff_of_true ⟨none, forwarded_of_unnamed (.inr rfl)⟩ ?_
      rintro _ _ ⟨⟩ ne
      exact absurd rfl ne
    · rw [forwarded_of_named set]
      cases given : given? vars name with
      | none =>
        refine iff_of_true ⟨none, rfl⟩ ?_
        rintro _ _ ⟨⟩ - given'
        cases given.symm.trans given'
      | some v =>
        simp only [map_isOk_iff, unescape_eq_ok_iff]
        constructor
        · rintro readable _ _ ⟨⟩ - given'
          cases given.symm.trans given'
          exact readable
        · intro readable
          exact readable name v rfl set given

theorem chain?_isOk_iff {r : Request} :
    (∃ rs?, r.chain? (.ofText? header?) = .ok rs?) ↔ r.Extractable header? := by
  have attached_value : ∀ v, r.attached = .value v → v.isNull = false →
      r.chain? (.ofText? header?) = (fun vs => some (vs.map .plain)) <$> v.items := by
    intro v attached given
    unfold chain?
    rw [attached]
    simp only [given, Bool.not_false, if_true]
    cases v.items <;> rfl
  constructor
  · rintro ⟨rs?, taken⟩
    cases attached : r.attached with
    | records rs => exact .records rs attached
    | passing steps =>
      unfold chain? at taken
      rw [attached] at taken
      exact .passing steps attached (mapM_result_isOk_iff.1 (map_isOk_iff.1 ⟨_, taken⟩))
    | value v =>
      cases null : v.isNull with
      | false =>
        rw [attached_value v attached null] at taken
        exact .items v attached (items_isOk_iff.1 (map_isOk_iff.1 ⟨_, taken⟩))
      | true =>
        cases v <;> cases null
        rw [chain?_of_unattached attached] at taken
        refine .variables attached fun name v open_question named set given => ?_
        rw [presented_of_bare open_question] at taken
        exact forwarded_isOk_iff.1 ⟨_, taken⟩ name v named set given
  · rintro (⟨rs, attached⟩ | ⟨steps, attached, complete⟩ | ⟨v, attached, listed⟩ |
      ⟨unattached, readable⟩)
    · exact ⟨some rs, by unfold chain?; rw [attached]⟩
    · unfold chain?
      rw [attached]
      exact map_isOk_iff.2 (mapM_result_isOk_iff.2 complete)
    · obtain ⟨vs, read⟩ := items_isOk_iff.2 listed
      have given : v.isNull = false := by cases listed <;> rfl
      exact ⟨_, by rw [attached_value v attached given, read]; rfl⟩
    · rw [chain?_of_unattached unattached]
      cases open_question : given? r.vars leafVariable with
      | some leaf => exact ⟨_, presented_of_served open_question _⟩
      | none =>
        rw [presented_of_bare open_question]
        exact forwarded_isOk_iff.2 fun name v => readable name v open_question

end Request

/-! ## Guards that enforce nothing -/

/-- A guard that enforces nothing takes out the chain and lets the request pass; it has nothing to
write down. -/
theorem check_of_off {g : Guard} (off : g.gate = .ready .off) (now : Timestamp) (r : Request) :
    g.check now r = ⟨[], (fun _ => none) <$> r.chain? g.header⟩ := by
  unfold Guard.check
  rw [off]
  cases taken : r.chain? g.header with
  | error f => rfl
  | ok rs? => rfl

/-- With the flag off a guard is built whatever the other options are. It lets every request pass
whose chain can be taken out, it rejects none, and it writes nothing down. -/
theorem check_unenforced_iff {s : Settings} {tally : Tally} {options : Options}
    {header? : Option String} (found : s.options = .ok options)
    (unenforced : s.policyFlag.answer tally = .ok false)
    (proxy : options.lookup "CERT_HEADER" = some (.ofText? header?)) :
    ∃ g, (Guard.build s).answer tally = .ok g ∧ g.gate = .ready .off ∧
      ∀ (r : Request) (now : Timestamp),
        ((g.check now r).result = .ok none ↔ r.Extractable header?) ∧
        (∀ a, (g.check now r).result ≠ .ok (some a)) ∧ (g.check now r).log = [] := by
  obtain ⟨o, start⟩ := exists_start found
  have configured : (configureFrom s options).answer tally = .ok .off :=
    (configureFrom_eq_ok_iff found).2 ⟨o, start, .inl ⟨unenforced, rfl⟩⟩
  have built : (Guard.build s).answer tally = .ok ⟨.ofText? header?, .ready .off⟩ :=
    build_eq_ok_iff.2 ⟨options, found, proxy, .off, configured, rfl⟩
  refine ⟨_, built, rfl, fun r now => ?_⟩
  rw [check_of_off rfl, ← Request.chain?_isOk_iff]
  cases r.chain? (.ofText? header?) with
  | error f => simp
  | ok rs? => simp

/-! ## A number in the place of a chain -/

/-- Settings with the flag off and other options that nothing could be started with. -/
def unenforcedSettings : Settings where
  auth? := some (.mapping [("ENFORCE", .text "off"), ("CERT_CONTAINS", .int 0), ("PATHS", .int 42),
    ("CONTEXT_PATH", .list []), ("CERT_HEADER", .text "HTTP_X_CERT")])
  mountPath := .text "/app"
  environment := []
  library := fun path => .error (.raised .moduleNotFound path)

/-- A request to read, with something attached and some variables. -/
def requestCarrying (attached : Chain) (vars : List (String × Value)) : Request where
  verb := "GET"
  path := "/"
  pathInfo := "/"
  vars := vars
  attached := attached

theorem check_unenforced_passes :
    unenforcedSettings.policyFlag.answer [] = .ok false ∧
      (∃ options, unenforcedSettings.options = .ok options ∧
        options.lookup "CERT_HEADER" = some (.ofText? (some "HTTP_X_CERT"))) ∧
      ∃ g, (Guard.build unenforcedSettings).answer [] = .ok g ∧ g.gate = .ready .off ∧
        ∀ now, (g.check now (requestCarrying (.value (.list [.int 7])) [])).result = .ok none ∧
          (g.check now (requestCarrying (.value .null)
            [("SSL_CLIENT_CERT", .int 7), ("HTTP_X_CERT", .int 42)])).result = .ok none := by
  obtain ⟨g, built, off, passes⟩ :=
    @check_unenforced_iff unenforcedSettings [] _ (some "HTTP_X_CERT") rfl rfl rfl
  refine ⟨rfl, ⟨_, rfl, rfl⟩, g, built, off, fun now => ⟨?_, ?_⟩⟩
  · exact (passes _ now).1.2 (.items _ rfl (.list _))
  · exact (passes _ now).1.2 (.variables rfl fun _ _ open_question => nomatch open_question)

/-- A number in the place of a chain makes a guard fail that enforces nothing, and so does one in the
place of the header of a proxy. -/
theorem check_unenforced_number_fails :
    ∃ g, (Guard.build unenforcedSettings).answer [] = .ok g ∧ g.gate = .ready .off ∧
      ∀ now, (g.check now (requestCarrying (.value (.int 42)) [])).result =
          .error (.notIterable "int") ∧
        (g.check now (requestCarrying (.value .null) [("HTTP_X_CERT", .int 42)])).result =
          .error (.notContainer "int") :=
  ⟨⟨.text "HTTP_X_CERT", .ready .off⟩, rfl, rfl, fun _ => ⟨rfl, rfl⟩⟩

end CertGate
