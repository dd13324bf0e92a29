import CertGate.Event
import CertGate.Flag
import CertGate.Settings

/-!
# Asking for the flag

Scripted providers answer differently from one question to the next, so asking depends on how often
each has been asked before. A `Tally` keeps the keys of those asked, and `Asking` is an operation
that reads and adds to it.

`resolveFlag` asks a provider for the enforcement flag: by its own question if it has one, else by
calling it.
-/

namespace CertGate

/-- The keys of the scripted providers asked so far, the latest first. -/
abbrev Tally := List Nat

/-- An operation that may ask providers. -/
def Asking (α : Type) := Tally → Logged α × Tally

namespace Asking

def ofLogged {α : Type} (m : Logged α) : Asking α := fun tally => (m, tally)

def bind {α β : Type} (m : Asking α) (next : α → Asking β) : Asking β := fun tally =>
  match m tally with
  | (⟨log, .ok a⟩, tally) =>
    let (r, tally) := next a tally
    (⟨log ++ r.log, r.result⟩, tally)
  | (⟨log, .error f⟩, tally) => (⟨log, .error f⟩, tally)

instance : Monad Asking where
  pure a := ofLogged (pure a)
  bind := bind

instance : MonadLift Logged Asking := ⟨ofLogged⟩

instance : MonadLift (Except Failure) Asking := ⟨fun r => ofLogged (.ofResult r)⟩

def mapFailure {α : Type} (change : Failure → Failure) (m : Asking α) : Asking α := fun tally =>
  let (r, tally) := m tally
  (r.mapFailure change, tally)

/-- The next answer of a scripted provider. -/
def script (key : Nat) (answers : List Answer) : Asking Value := fun tally =>
  match Answer.nth answers (tally.count key) with
  | .gives v => (pure v, key :: tally)
  | .fails f => (.fail f, key :: tally)

end Asking

/-- The flag of the settings; without options, or without the flag among them, it is off. -/
def Settings.flag (s : Settings) : Except Failure Bool :=
  match s.overrides with
  | .mapping entries =>
    Flag.read "X509_AUTH[\"ENFORCE\"]" ((entries.lookup "ENFORCE").getD (.bool false))
  | v => .error (.missingAttribute v.typeName "get")

/-- What the variable of an environment says, or a default. -/
def Settings.environmentFlag (s : Settings) (name : String) (default : Value) :
    Except Failure Value :=
  match s.variable? name with
  | none => .ok default
  | some value => return .bool (← Flag.read ("$" ++ name) (.text value))

/-- A value called without arguments, if it can be called. -/
def Value.call? : Value → Option (Asking Value)
  | .provider (.callable key answers) => some (.script key answers)
  | .provider (.function _ answer) | .provider (.type _ answer _) => some answer.result
  | _ => none

def Value.call (v : Value) : Asking Value :=
  v.call?.getD (.ofLogged (.fail (.notCallable v.typeName)))

/-- The question for the flag that a value has of its own. -/
def Value.question? (s : Settings) : Value → Option (Asking Value)
  | .provider (.fixed v) => some (pure v)
  | .provider .fromSettings => some (s.flag.map Value.bool : Except Failure Value)
  | .provider (.fromEnvironment name default) => some (s.environmentFlag name default)
  | .provider (.strategy key answers) => some (.script key answers)
  | .provider (.holder v) => if v.isNull then none else some v.call
  | .provider (.type _ _ asked) => some asked.result
  | _ => none

/-- How a value is asked for the flag, if it can be asked. -/
def Value.asked? (s : Settings) (v : Value) : Option (Asking Value) :=
  (v.question? s).or v.call?

/-- The enforcement flag of a provider. -/
def resolveFlag (s : Settings) (provider : Value) : Asking Bool :=
  match provider.asked? s with
  | none => .ofLogged (.fail (.notProvider provider.show))
  | some ask => do Flag.read provider.show (← ask)

end CertGate
