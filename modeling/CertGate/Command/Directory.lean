import CertGate.Failure
import CertGate.Octets.Utf8
import CertGate.Text.Pieces

/-!
# The directory of a command

A `Directory` holds the files and folders that a command may meet, by their paths from it. A path is
followed name by name; the folders above the directory are always there. `Directory.create` adds a
file where a path leads, in a folder that is there.
-/

namespace CertGate

/-- Where a path leads: from the root, or from the directory some levels up, and along names. -/
structure Spot where
  isRooted : Bool
  up : Nat
  names : List String
  deriving DecidableEq, Repr

namespace Spot

def here : Spot := ⟨false, 0, []⟩

def root : Spot := ⟨true, 0, []⟩

/-- The folder around a spot. The root is around itself. -/
def parent (p : Spot) : Spot :=
  if p.names.isEmpty then (if p.isRooted then p else { p with up := p.up + 1 })
  else { p with names := p.names.dropLast }

def child (p : Spot) (name : String) : Spot := { p with names := p.names ++ [name] }

/-- Whether one spot is around another, at any distance. -/
def isAround (p q : Spot) : Bool :=
  p.isRooted = q.isRooted && p.up = q.up && p.names.length < q.names.length &&
    p.names.isPrefixOf q.names

def steps (path : String) : List String := (Text.splitText '/' path).filter (· ≠ "")

def origin (path : String) : Spot := if path.toList.head? = some '/' then root else here

/-- The spot one step further, by the names alone. -/
def step (p : Spot) (name : String) : Spot :=
  if name = "." then p else if name = ".." then p.parent else p.child name

/-- The spot of a path, by its names alone. -/
def ofPath (path : String) : Spot := (steps path).foldl step (origin path)

def path (p : Spot) : String :=
  let way := Text.joinTexts '/' (List.replicate p.up ".." ++ p.names)
  if p.isRooted then "/" ++ way else way

end Spot

/-- Files with their texts, and folders besides those that hold the files. -/
structure Directory where
  files : List (String × String)
  folders : List String

namespace Directory

/-- The longest name of a file in octets. -/
def nameLimit : Nat := 255

/-- The longest path in octets. -/
def pathLimit : Nat := 4095

def isFolder (d : Directory) (p : Spot) : Bool :=
  p.names.isEmpty || d.folders.any (fun f => Spot.ofPath f = p) ||
    d.files.any fun f => p.isAround (Spot.ofPath f.1)

def isFile (d : Directory) (p : Spot) : Bool := d.files.any fun f => Spot.ofPath f.1 = p

def isLongName (name : String) : Bool := nameLimit < (Utf8.encode name).length

def enter (d : Directory) (p : Spot) (name : String) : Except Failure Spot :=
  let q := p.step name
  if d.isFolder q then .ok q
  else if d.isFile q then .error (.notFolder q.path)
  else if isLongName name then .error (.longName name)
  else .error (.fileNotFound q.path)

/-- Whether a path can be followed at all. -/
def checkPath (path : String) : Except Failure Unit :=
  if path = "" then .error (.fileNotFound path)
  else if '\x00' ∈ path.toList then .error (.unfitPath path)
  else if pathLimit < (Utf8.encode path).length then .error (.longName path)
  else .ok ()

/-- The folder that all steps but the last one lead to, and the last step if there is one. -/
def approach (d : Directory) (path : String) : Except Failure (Spot × Option String) := do
  checkPath path
  let steps := Spot.steps path
  return (← steps.dropLast.foldlM d.enter (Spot.origin path), steps.getLast?)

/-- Whether a path ends in a slash, and so can lead to a folder only. -/
def wantsFolder (path : String) : Bool := path.toList.getLast? = some '/'

def isTaken (d : Directory) (path : String) : Bool :=
  match d.approach path with
  | .error _ => false
  | .ok (_, none) => true
  | .ok (folder, some name) =>
    d.isFolder (folder.step name) || (d.isFile (folder.step name) && !wantsFolder path)

def create (d : Directory) (path text : String) : Except Failure Directory := do
  match ← d.approach path with
  | (folder, none) => .error (.isFolder folder.path)
  | (folder, some name) =>
    let spot := folder.step name
    if wantsFolder path || d.isFolder spot then .error (.isFolder spot.path)
    else if isLongName name then .error (.longName name)
    else .ok { d with files := d.files ++ [(spot.path, text)] }

/-- The files of the directory itself and of the folders in it. -/
def own (d : Directory) : List (String × String) :=
  d.files.filter fun f => Spot.here.isAround (Spot.ofPath f.1)

end Directory
end CertGate
