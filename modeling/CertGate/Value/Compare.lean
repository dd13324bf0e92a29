import CertGate.Value.Show

/-!
# Equality and membership of values

* `Value.same` : whether two values are equal, numbers of all types by what they count, mappings and
  sets without regard to order, objects as they say themselves;
* `Value.isIn` : whether a value is in another one: a part of a text or of octets, an item of a list
  or a set, a key of a mapping.
-/

namespace CertGate

/-- Whether one of some values passes a test, the first one that does ending the search. -/
def anyPasses (test : Value → Except Failure Bool) : List Value → Except Failure Bool
  | [] => .ok false
  | v :: rest => do if ← test v then return true else anyPasses test rest

namespace Value

def number? : Value → Option Binary
  | bool b => some (.ofInt (if b then 1 else 0))
  | int n => some (.ofInt n)
  | decimal d => some (.ofDecimal d)
  | _ => none

/-- Whether two values without items are equal. -/
def sameLeaf : Value → Value → Bool
  | null, null => true
  | text s, text t => s == t
  | octets bs, octets cs => bs == cs
  | time s, time t =>
    match s.rank?, t.rank? with
    | some m, some n => m == n
    | none, none => s.clock == t.clock
    | _, _ => false
  | v, w =>
    match v.number?, w.number? with
    | some x, some y => x.sameAs y
    | _, _ => false

/-- Whether an object is equal to a value. It always is to itself. -/
def sameObject (o : Object) : Value → Except Failure Bool
  | object p => if o.key = p.key then .ok true else Fault.result (o.equals p.shown)
  | v => Fault.result (o.equals v.show)

/-- Whether a comparison says yes. In a set only what has the same hash is compared at all. -/
def isAgreed : Except Failure Bool → Bool
  | .ok agreed => agreed
  | .error _ => false

mutual

def same : Value → Value → Except Failure Bool
  | list vs, list ws => if vs.length = ws.length then sameItems vs ws else .ok false
  | tuple vs, tuple ws => sameItems vs ws
  | set vs, set ws => .ok (vs.length == ws.length && sameMembers vs ws)
  | mapping vs, mapping ws => if vs.length = ws.length then sameEntries vs ws else .ok false
  | object o, w => sameObject o w
  | v, object o => Fault.result (o.equals v.show)
  | v, w => .ok (sameLeaf v w)
termination_by structural v => v

def sameItems : List Value → List Value → Except Failure Bool
  | [], [] => .ok true
  | v :: vs, w :: ws => do if ← same v w then sameItems vs ws else return false
  | _, _ => .ok false
termination_by structural vs => vs

def sameMembers : List Value → List Value → Bool
  | [], _ => true
  | v :: vs, ws => ws.any (fun w => isAgreed (same v w)) && sameMembers vs ws
termination_by structural vs => vs

def sameEntries : List (String × Value) → List (String × Value) → Except Failure Bool
  | [], _ => .ok true
  | (key, v) :: rest, entries =>
    match entries.lookup key with
    | some w => do if ← same v w then sameEntries rest entries else return false
    | none => .ok false
termination_by structural es => es

end

mutual

/-- The type of what makes a value unfit for a key: a list, a set or a mapping, in a tuple too. -/
def unhashable? : Value → Option String
  | list _ => some "list"
  | set _ => some "set"
  | mapping _ => some "dict"
  | tuple items => unhashableItem? items
  | _ => none

def unhashableItem? : List Value → Option String
  | [] => none
  | v :: vs => (unhashable? v).or (unhashableItem? vs)

end

/-- The value under any value as key; keys are texts. -/
def get? (key : Value) (entries : List (String × Value)) : Except Failure (Option Value) :=
  match key, unhashable? key with
  | object o, _ => do
    let _ ← Fault.result o.isWithin
    return none
  | _, some type => .error (.unhashable type)
  | text k, none => .ok (entries.lookup k)
  | _, none => .ok none

def octetIsIn (n : Int) (bs : List UInt8) : Except Failure Bool :=
  if 0 ≤ n ∧ n < 256 then .ok (bs.contains (UInt8.ofNat n.toNat)) else .error .noOctet

/-- Whether a value is in a set. A set is looked for although it is unfit for an item. -/
def isInSet (needle : Value) (items : List Value) : Except Failure Bool :=
  match needle, unhashable? needle with
  | object o, _ => Fault.result o.isWithin
  | set _, _ | _, none => .ok (items.any fun v => isAgreed (same needle v))
  | _, some type => .error (.unhashable type)

def isIn (needle : Value) : Value → Except Failure Bool
  | text s =>
    match needle with
    | text part => .ok (Text.partOfText part s)
    | v => .error (.textNeeded v.typeName)
  | octets bs =>
    match needle with
    | octets part => .ok (Text.occursIn part bs)
    | int n => octetIsIn n bs
    | bool b => octetIsIn (if b then 1 else 0) bs
    | object o => Fault.result o.isWithin
    | v => .error (.octetsNeeded v.typeName)
  | list items | tuple items =>
    match needle with
    | object o => Fault.result o.isWithin
    | v => anyPasses (same v) items
  | set items => isInSet needle items
  | mapping entries =>
    match needle with
    | object o => Fault.result o.isWithin
    | v => do return (← get? v entries).isSome
  | object o => Fault.result (o.contains needle.show)
  | v => .error (.notContainer v.typeName)

/-- A text is in a text just when it is a contiguous part of it. -/
theorem isIn_text {part s : String} :
    isIn (text part) (text s) = .ok true ↔
      ∃ before after : String, s = before ++ part ++ after := by
  simp [isIn, Text.partOfText_iff]

end Value
end CertGate
