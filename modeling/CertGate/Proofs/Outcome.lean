import CertGate.Asking

/-!
# Results of operations in a row

What an operation amounts to apart from its events is an `Except`, and taking the result of a row of
operations is taking the results in a row.

* `ok_bind`, `error_bind`, `bind_eq_ok_iff`, `bind_eq_error_iff` : `Except` itself;
* `Logged.result_bind` and its companions : the result of an operation that writes events;
  `Logged.bind_eq_ok_iff` has the events too, for operations that end well;
* `Asking.answer` : the result of an operation that asks providers, from a tally on
  (`Asking.answer_bind`, `Asking.answer_liftM`, `Asking.answer_mapFailure`);
* `Asking.after` : the tally that it leaves (`Asking.after_bind`, `Asking.after_bind_of_silent`).
-/

namespace CertGate

section Bind
variable {ε α β : Type}

@[simp] theorem ok_bind (a : α) (next : α → Except ε β) : (Except.ok a >>= next) = next a := rfl

@[simp] theorem error_bind (f : ε) (next : α → Except ε β) :
    (Except.error f >>= next) = Except.error f := rfl

@[simp] theorem pure_eq_ok (a : α) : (pure a : Except ε α) = Except.ok a := rfl

@[simp] theorem map_ok (f : α → β) (a : α) :
    (f <$> Except.ok a : Except ε β) = Except.ok (f a) := rfl

@[simp] theorem map_error (f : α → β) (e : ε) :
    (f <$> Except.error e : Except ε β) = Except.error e := rfl

theorem bind_eq_ok_iff {m : Except ε α} {next : α → Except ε β} {b : β} :
    (m >>= next) = Except.ok b ↔ ∃ a, m = Except.ok a ∧ next a = Except.ok b := by
  cases m with
  | ok a => simp
  | error f => simp

theorem bind_eq_error_iff {m : Except ε α} {next : α → Except ε β} {e : ε} :
    (m >>= next) = Except.error e ↔
      m = Except.error e ∨ ∃ a, m = Except.ok a ∧ next a = Except.error e := by
  cases m with
  | ok a => simp
  | error f => simp

theorem map_isOk_iff {f : α → β} {m : Except ε α} :
    (∃ b, f <$> m = Except.ok b) ↔ ∃ a, m = Except.ok a := by
  cases m with
  | ok a => simp
  | error f => simp

theorem map_eq_ok_iff {f : α → β} {m : Except ε α} {b : β} :
    f <$> m = Except.ok b ↔ ∃ a, m = Except.ok a ∧ f a = b := by
  cases m with
  | ok a => simp
  | error e => simp

theorem map_eq_error_iff {f : α → β} {m : Except ε α} {e : ε} :
    f <$> m = Except.error e ↔ m = Except.error e := by
  cases m with
  | ok a => simp
  | error e' => simp

theorem eq_ok_of_toOption {m : Except ε α} {a : α} (h : m.toOption = some a) : m = Except.ok a := by
  cases m with
  | ok b => exact congrArg Except.ok (Option.some.inj h)
  | error f => cases h

/-- The failure of a result, if it has one. -/
def failure? : Except ε α → Option ε
  | .ok _ => none
  | .error f => some f

theorem eq_error_of_failure? {m : Except ε α} {f : ε} (h : failure? m = some f) :
    m = Except.error f := by
  cases m with
  | ok a => cases h
  | error e => exact congrArg Except.error (Option.some.inj h)

theorem mapError_eq_error_iff {m : Except ε α} {change : ε → β} {e : β} :
    m.mapError change = Except.error e ↔ ∃ f, m = Except.error f ∧ e = change f := by
  cases m with
  | ok b =>
    show (Except.ok b : Except β α) = Except.error e ↔ _
    simp
  | error f =>
    show (Except.error (change f) : Except β α) = Except.error e ↔ _
    simp [eq_comm]

theorem mapError_eq_ok_iff {m : Except ε α} {change : ε → β} {a : α} :
    m.mapError change = Except.ok a ↔ m = Except.ok a := by
  cases m with
  | ok b =>
    show (Except.ok b : Except β α) = Except.ok a ↔ _
    rw [Except.ok.injEq, Except.ok.injEq]
  | error f =>
    show (Except.error (change f) : Except β α) = Except.ok a ↔ _
    simp

theorem mapM_eq_ok_map {f : α → Except ε β} {g : α → β} {xs : List α}
    (h : ∀ x ∈ xs, f x = Except.ok (g x)) : xs.mapM f = Except.ok (xs.map g) := by
  induction xs with
  | nil => rfl
  | cons x xs ih =>
    rw [List.mapM_cons, h x (by simp), ok_bind, ih fun y mem => h y (by simp [mem]), ok_bind]
    rfl

theorem mapM_eq_ok_iff {f : α → Except ε β} {xs : List α} {ys : List β} :
    xs.mapM f = Except.ok ys ↔ xs.map f = ys.map Except.ok := by
  induction xs generalizing ys with
  | nil => cases ys <;> simp
  | cons x xs ih =>
    rw [List.mapM_cons, bind_eq_ok_iff]
    constructor
    · rintro ⟨y, first, rest⟩
      obtain ⟨ys, tail, ⟨⟩⟩ := bind_eq_ok_iff.1 rest
      rw [List.map_cons, first, ih.1 tail]
      rfl
    · intro split
      cases ys with
      | nil => cases split
      | cons y ys =>
        obtain ⟨first, tail⟩ := List.cons.inj split
        exact ⟨y, first, bind_eq_ok_iff.2 ⟨ys, ih.2 tail, rfl⟩⟩

theorem mapM_isOk_iff {f : α → Except ε β} {xs : List α} :
    (∃ ys, xs.mapM f = Except.ok ys) ↔ ∀ x ∈ xs, ∃ y, f x = Except.ok y := by
  induction xs with
  | nil => simp
  | cons x xs ih =>
    rw [List.forall_mem_cons, ← ih]
    simp only [List.mapM_cons, bind_eq_ok_iff, pure_eq_ok, Except.ok.injEq]
    constructor
    · rintro ⟨_, y, first, ys, rest, -⟩
      exact ⟨⟨y, first⟩, ys, rest⟩
    · rintro ⟨⟨y, first⟩, ys, rest⟩
      exact ⟨_, y, first, ys, rest, rfl⟩

end Bind

theorem result_eq_ok_iff {α : Type} {r : Except Fault α} {a : α} :
    Fault.result r = .ok a ↔ r = .ok a :=
  mapError_eq_ok_iff

theorem result_isOk_iff {α : Type} {r : Except Fault α} :
    (∃ a, Fault.result r = .ok a) ↔ ∃ a, r = .ok a := by
  simp only [Fault.result, mapError_eq_ok_iff]

theorem mapM_result_isOk_iff {α : Type} {steps : List (Except Fault α)} :
    (∃ as, steps.mapM Fault.result = .ok as) ↔ ∀ step ∈ steps, ∃ a, step = .ok a := by
  rw [mapM_isOk_iff]
  simp only [result_isOk_iff]

namespace Logged
variable {α β : Type}

theorem result_bind (m : Logged α) (next : α → Logged β) :
    (m >>= next).result = m.result >>= fun a => (next a).result := by
  cases h : m.result with
  | ok a => rw [bind_eq_of_ok h, ok_bind]
  | error f => rw [bind_eq_of_error h, error_bind]

@[simp] theorem result_tell (e : Event) : (tell e).result = .ok () := rfl

@[simp] theorem result_liftM (r : Except Failure α) : (liftM r : Logged α).result = r := rfl

theorem liftM_ok_bind (a : α) (next : α → Logged β) :
    ((liftM (Except.ok a : Except Failure α) : Logged α) >>= next) = next a := rfl

theorem result_ite (p : Prop) [Decidable p] (m n : Logged α) :
    (if p then m else n).result = if p then m.result else n.result := by
  split <;> rfl

/-- Operations in a row end well if each of them does, and write what they write one after the other. -/
theorem bind_eq_ok_iff {m : Logged α} {next : α → Logged β} {log : List Event} {b : β} :
    m >>= next = ⟨log, .ok b⟩ ↔
      ∃ first a more, m = ⟨first, .ok a⟩ ∧ next a = ⟨more, .ok b⟩ ∧ log = first ++ more := by
  obtain ⟨first, result⟩ := m
  cases result with
  | error f =>
    rw [bind_eq_of_error rfl]
    exact iff_of_false nofun (by rintro ⟨_, _, _, ⟨⟩, _⟩)
  | ok a =>
    rw [bind_eq_of_ok rfl]
    constructor
    · intro ends
      obtain ⟨rfl, gives⟩ := Logged.mk.inj ends
      exact ⟨first, a, (next a).log, rfl, by rw [← gives], rfl⟩
    · rintro ⟨_, _, more, ⟨⟩, ends, rfl⟩
      rw [ends]

theorem liftM_bind_eq_ok_iff {r : Except Failure α} {next : α → Logged β} {log : List Event} {b : β} :
    ((liftM r : Logged α) >>= next) = ⟨log, .ok b⟩ ↔ ∃ a, r = .ok a ∧ next a = ⟨log, .ok b⟩ := by
  cases r with
  | error f =>
    rw [bind_eq_of_error rfl]
    exact iff_of_false nofun nofun
  | ok a =>
    rw [liftM_ok_bind]
    simp

theorem tell_bind_eq_ok_iff {e : Event} {next : Unit → Logged β} {log : List Event} {b : β} :
    (tell e >>= next) = ⟨log, .ok b⟩ ↔ ∃ more, next () = ⟨more, .ok b⟩ ∧ log = e :: more := by
  rw [bind_eq_ok_iff]
  constructor
  · rintro ⟨_, _, more, ⟨⟩, ends, rfl⟩
    exact ⟨more, ends, rfl⟩
  · rintro ⟨more, ends, rfl⟩
    exact ⟨_, _, more, rfl, ends, rfl⟩

end Logged

namespace Asking
variable {α β : Type}

/-- The result of an operation, the providers of a tally having been asked. -/
def answer (m : Asking α) (tally : Tally) : Except Failure α := (m tally).1.result

/-- The tally after an operation. -/
def after (m : Asking α) (tally : Tally) : Tally := (m tally).2

theorem answer_bind (m : Asking α) (next : α → Asking β) (tally : Tally) :
    (m >>= next).answer tally = m.answer tally >>= fun a => (next a).answer (m.after tally) := by
  show (bind m next tally).1.result = _
  unfold bind answer after
  rcases m tally with ⟨⟨log, a | f⟩, tally⟩ <;> rfl

@[simp] theorem answer_pure (a : α) (tally : Tally) :
    (pure a : Asking α).answer tally = .ok a := rfl

@[simp] theorem answer_liftM (r : Except Failure α) (tally : Tally) :
    (liftM r : Asking α).answer tally = r := rfl

@[simp] theorem answer_liftM_logged (m : Logged α) (tally : Tally) :
    (liftM m : Asking α).answer tally = m.result := rfl

@[simp] theorem after_liftM (r : Except Failure α) (tally : Tally) :
    (liftM r : Asking α).after tally = tally := rfl

@[simp] theorem after_liftM_logged (m : Logged α) (tally : Tally) :
    (liftM m : Asking α).after tally = tally := rfl

theorem after_bind (m : Asking α) (next : α → Asking β) (tally : Tally) :
    (m >>= next).after tally =
      match m.answer tally with
      | .ok a => (next a).after (m.after tally)
      | .error _ => m.after tally := by
  show (bind m next tally).2 = _
  unfold bind answer after
  rcases m tally with ⟨⟨log, a | f⟩, tally⟩ <;> rfl

/-- Operations that ask nobody leave the tally as the one before them left it. -/
theorem after_bind_of_silent {m : Asking α} {next : α → Asking β}
    (silent : ∀ a tally, (next a).after tally = tally) (tally : Tally) :
    (m >>= next).after tally = m.after tally := by
  rw [after_bind]
  cases m.answer tally with
  | ok a => exact silent a _
  | error f => rfl

theorem after_mapFailure (change : Failure → Failure) (m : Asking α) (tally : Tally) :
    (m.mapFailure change).after tally = m.after tally := rfl

theorem answer_mapFailure (change : Failure → Failure) (m : Asking α) (tally : Tally) :
    (m.mapFailure change).answer tally = (m.answer tally).mapError change := rfl

end Asking
end CertGate
