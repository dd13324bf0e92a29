import CertGate.Octets.Der.Row

/-!
# Algorithms

A certificate names an algorithm three times, twice for its signature and once for its key: by an
object identifier, with parameters behind it that depend on the algorithm.

* `Parameters` : what may stand behind an identifier, by the table `parametersOf`;
* `isAlgorithm` : whether an element is an identifier with its parameters.

Parameters may name algorithms in turn, each inside the element that names it.
-/

namespace CertGate.Certificate

open Der (Element Field)

/-- What may stand behind the identifier of an algorithm. -/
inductive Parameters
  | none
  /-- Null or nothing. -/
  | optionalNull
  /-- The curve of a key: its name, its description, or null. -/
  | curve
  | signatureGroup
  | exchangeGroup
  /-- The same without the order of the group. -/
  | plainGroup
  /-- How a signature is filled up with noise, or nothing. -/
  | padding
  /-- So many octets to begin with. -/
  | start (size : Nat)
  /-- One element of any kind, or nothing. -/
  | any
  deriving DecidableEq, Repr

/-- The identifiers with a common beginning. -/
def below (front lasts : List Nat) : List (List Nat) := lasts.map (front ++ [·])

def standardArcs : List Nat := [2, 16, 840, 1, 101, 3, 4]

def knownParameters : List (List (List Nat) × Parameters) := [
  (below (standardArcs ++ [2]) [1, 2, 3, 4, 7, 8, 9, 10], .optionalNull),
  (below (standardArcs ++ [3]) [1, 2, 3, 4, 13, 14, 15, 16], .optionalNull),
  (below (standardArcs ++ [3]) [9, 10, 11, 12], .none),
  (below (standardArcs ++ [1]) [2, 22, 42], .start 16),
  (below [1, 3, 14, 3, 2] [26, 29], .optionalNull),
  (below [1, 3, 101] [110, 111, 112, 113], .none),
  (below [1, 2, 840, 10040, 4] [1], .signatureGroup),
  (below [1, 2, 840, 10040, 4] [3], .optionalNull),
  (below [1, 2, 840, 10045, 2] [1], .curve),
  (below [1, 2, 840, 10045, 4, 3] [1, 2, 3, 4], .none),
  (below [1, 2, 840, 10046, 2] [1], .exchangeGroup),
  (below [1, 2, 840, 113549, 1, 1] [1, 5, 11, 12, 13, 14], .optionalNull),
  (below [1, 2, 840, 113549, 1, 1] [10], .padding),
  (below [1, 2, 840, 113549, 1, 3] [1], .plainGroup),
  (below [1, 2, 840, 113549, 2] [7, 8, 9, 10, 11], .optionalNull),
  (below [1, 2, 840, 113549, 3] [7], .start 8)]

def parametersOf (id : List Nat) : Parameters :=
  ((knownParameters.find? fun entry => id ∈ entry.1).map Prod.snd).getD .any

/-- The usual hash, as it is spelled. -/
def usualHash : List UInt8 := [0x30, 9, 6, 5, 0x2B, 0x0E, 3, 2, 0x1A, 5, 0]

def usualMask : List UInt8 :=
  [0x30, 0x16, 6, 9, 0x2A, 0x86, 0x48, 0x86, 0xF7, 0x0D, 1, 1, 8] ++ usualHash

def usualNoise : List UInt8 := [2, 1, 20]

/-- A curve by its name, by null, or by its field, equation, point, order and cofactor. -/
def curveField : Field :=
  let described := Field.sequence [.number 8, .sequence [.objectId, .optional .anything],
    .sequence [.octets, .octets, .optional .bits], .octets, .natural, .optional (.number 8)]
  let ways := [Field.objectId, Field.null, described]
  ⟨fun e => ways.any (·.takes e), fun e => ways.any fun f => f.takes e && f.accepts e, true⟩

/-- Hash, mask, length of the noise and a mark. What is usual is left out. -/
def paddingField (algorithm : Field) : Field := .sequence [
  .numbered 0 (.except usualHash algorithm),
  .numbered 1 (.except usualMask (.sequence [.objectId, algorithm])),
  .numbered 2 (.except usualNoise (.number 16)),
  .numbered 3 (.number 8)]

def Parameters.fields (algorithm : Field) : Parameters → List Field
  | none => []
  | optionalNull => [.optional .null]
  | curve => [curveField]
  | signatureGroup => [.sequence [.natural, .natural, .natural]]
  | exchangeGroup => [.sequence [.natural, .natural, .natural, .optional .natural,
      .optional (.tagged 0x30 fun _ => true)]]
  | plainGroup => [.sequence [.natural, .natural, .optional (.number 32)]]
  | padding => [.optional (paddingField algorithm)]
  | start size => [.tagged 0x04 fun e => e.content.length = size]
  | any => [.optional .anything]

/-- Whether an element is an algorithm that names others down to some depth. -/
def isAlgorithmWithin : Nat → Element → Bool
  | 0, _ => false
  | depth + 1, e =>
    match e.inside? 0x30 with
    | some (id :: parameters) =>
      id.hasTag 0x06 &&
        match Der.objectId? id.content with
        | some arcs =>
          let nested := Field.tagged 0x30 (isAlgorithmWithin depth)
          Field.fill ((parametersOf arcs).fields nested) parameters
        | none => false
    | _ => false

/-- Whether an element is an identifier with its parameters. Each algorithm inside it is shorter. -/
def isAlgorithm (e : Element) : Bool := isAlgorithmWithin e.raw.length e

end CertGate.Certificate
