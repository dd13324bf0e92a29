import CertGate.Failure
import CertGate.Octets.Blank
import CertGate.Text.Binary
import CertGate.Text.Part

/-!
# Values

Options, attributes of attached records and enforcement flags come from outside in any shape. A
`Value` is such a thing: plain data, a time, a `Provider` that can be asked for the flag, or an
`Object` of any other type, of which only is known what comes of the operations on it.

A scripted provider has a list of `Answer`s and a `key` that tells it from others; how often it has
been asked is kept outside it, so that asking is a function. In the same way an object that can be
gone through once only is another value afterwards (`Value.spent`).
-/

namespace CertGate

/-- A failure of a thing's own, which is none of the gate's and does not end the process. -/
structure Fault where
  kind : Kind
  text : String
  foreign : kind ≠ .gateState ∧ kind ≠ .fatal ∧ kind ≠ .exit

def Fault.failure (f : Fault) : Failure := .raised f.kind f.text

def Fault.result {α : Type} (r : Except Fault α) : Except Failure α := r.mapError Fault.failure

mutual

/-- A value of any shape. A mapping keeps the order of its keys, a set that of its items. -/
inductive Value
  | null
  | bool (b : Bool)
  | int (n : Int)
  | decimal (d : Decimal)
  | text (s : String)
  | octets (bs : List UInt8)
  | time (t : Timestamp)
  | list (items : List Value)
  | tuple (items : List Value)
  | set (items : List Value)
  | mapping (entries : List (String × Value))
  | provider (p : Provider)
  | object (o : Object)

/-- What can be asked for the enforcement flag. -/
inductive Provider
  | fixed (value : Value)
  | fromSettings
  /-- Gives the flag in a variable of the environment, or a default. -/
  | fromEnvironment (name : String) (default : Value)
  /-- Is called, and gives its answers in turn. -/
  | callable (key : Nat) (answers : List Answer)
  /-- Is asked, and gives its answers in turn. -/
  | strategy (key : Nat) (answers : List Answer)
  /-- Has a value in the place where the question should be. -/
  | holder (value : Value)
  /-- A function of some name, with what it does when it is called without arguments. -/
  | function (name : String) (answer : Answer)
  /-- A type, with what comes of making one of it, and of asking the type itself. -/
  | type (shown : String) (made asked : Answer)

inductive Answer
  | gives (value : Value)
  | fails (failure : Failure)

/-- A thing of any other type, by what comes of each operation on it. What an operation takes
besides the thing is told by how it is shown. -/
structure Object where
  key : Nat
  type : String
  shown : String
  isGiven : Bool
  /-- What it gives in turn when it is gone through, up to the first failure. -/
  steps : List (Except Fault Value)
  /-- Whether nothing is left of it after it has been gone through. -/
  isOnce : Bool
  first : Except Fault Value
  trimmed : Except Fault Trimmed
  /-- What comes of putting something behind it. -/
  plus : String → Except Fault Value
  /-- Whether something is in it. -/
  contains : String → Except Fault Bool
  /-- Whether it is in something that is no text. -/
  isWithin : Except Fault Bool
  /-- Whether it is equal to something else. -/
  equals : String → Except Fault Bool
  begins : String → Except Fault Bool
  unescaped : Except Fault Value

/-- What remains of a value without the blanks around it. -/
inductive Trimmed
  | text (s : String)
  | octets (bs : List UInt8)
  /-- Anything else, with what comes of putting it behind a mount path, and with why no certificate
  can be read from it. -/
  | other (behind : Except Fault Value) (unreadable : Fault)

end

instance : Inhabited Value := ⟨.null⟩

/-- The last answer is repeated. -/
def Answer.nth (answers : List Answer) (n : Nat) : Answer :=
  (answers[min n (answers.length - 1)]?).getD (.gives .null)

def Answer.result : Answer → Except Failure Value
  | .gives v => .ok v
  | .fails f => .error f

def Provider.typeName : Provider → String
  | .fixed _ => "StaticEnforcementPolicy"
  | .fromSettings => "SettingsEnforcementPolicy"
  | .fromEnvironment .. => "EnvironmentEnforcementPolicy"
  | .callable .. => "CallableProvider"
  | .strategy .. | .holder _ => "Provider"
  | .function .. => "function"
  | .type .. => "type"

namespace Value

def typeName : Value → String
  | null => "NoneType"
  | bool _ => "bool"
  | int _ => "int"
  | decimal _ => "float"
  | text _ => "str"
  | octets _ => "bytes"
  | time _ => "datetime.datetime"
  | list _ => "list"
  | tuple _ => "tuple"
  | set _ => "set"
  | mapping _ => "dict"
  | provider p => p.typeName
  | object o => o.type

/-- Whether a value counts as given: neither nothing, nor nought, nor empty. -/
def isGiven : Value → Bool
  | null => false
  | bool b => b
  | int n => n != 0
  | decimal d => !(Binary.ofDecimal d).isZero
  | text s => s != ""
  | octets bs => !bs.isEmpty
  | list items | tuple items | set items => !items.isEmpty
  | mapping entries => !entries.isEmpty
  | time _ | provider _ => true
  | object o => o.isGiven

def isNull : Value → Bool
  | null => true
  | _ => false

def text? : Value → Option String
  | text s => some s
  | _ => none

/-- The items of a value: characters of a text, numbers of octets, keys of a mapping. -/
def items : Value → Except Failure (List Value)
  | text s => .ok (s.toList.map fun c => text (String.singleton c))
  | octets bs => .ok (bs.map fun b => int b.toNat)
  | list xs | tuple xs | set xs => .ok xs
  | mapping entries => .ok (entries.map fun e => text e.1)
  | object o => o.steps.mapM Fault.result
  | v => .error (.notIterable v.typeName)

def first : Value → Except Failure (Option Value)
  | text s => .ok (s.toList.head?.map fun c => text (String.singleton c))
  | octets bs => .ok (bs.head?.map fun b => int b.toNat)
  | list xs | tuple xs => .ok xs.head?
  | mapping _ => .error (.missingKey "0")
  | object o => some <$> Fault.result o.first
  | v => .error (.notSubscriptable v.typeName)

def trim : Value → Except Failure Trimmed
  | text s => .ok (.text (Text.trim s))
  | octets bs => .ok (.octets (Octets.trim bs))
  | object o => Fault.result o.trimmed
  | v => .error (.missingAttribute v.typeName "strip")

def spent : Value → Value
  | object o => object (if o.isOnce then { o with steps := [] } else o)
  | v => v

/-- Whether a value is gone through the same way again. -/
def IsLasting : Value → Prop
  | object o => o.isOnce = false
  | _ => True

end Value
end CertGate
