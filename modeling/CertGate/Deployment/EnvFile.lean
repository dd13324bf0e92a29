import CertGate.Failure
import CertGate.Text.Blank

/-!
# Environment files

A file with one variable a line, `NAME=value`. Values may stand in quotes; `export`, comments and
blanks around the parts are allowed. A line that is not of this form is skipped.

* `EnvFile.bindings` : the names in a file with their raw values, a name without a sign of equality
  having none;
* `EnvFile.expand` : a value with the variables in it replaced;
* `EnvFile.load` : an environment with the variables of a file added, those already set being kept,
  or the failure to hold one of them.
-/

namespace CertGate.EnvFile

/-- Variables with their values, at most one entry a name. -/
abbrev Environment := List (String × String)

def value? (env : Environment) (name : String) : Option String :=
  env.lookup name

/-! ## Lines -/

/-- Line ends of all kinds as line feeds. -/
def lineFeeds : List Char → List Char
  | [] => []
  | '\r' :: '\n' :: cs => '\n' :: lineFeeds cs
  | '\r' :: cs => '\n' :: lineFeeds cs
  | c :: cs => c :: lineFeeds cs

def isInlineBlank (c : Char) : Bool := Text.isBlank c && c != '\n' && c != '\r'

def skipBlanks (cs : List Char) : List Char := cs.dropWhile isInlineBlank

/-- What follows the rest of a line and its end. -/
def skipLine (cs : List Char) : List Char := (cs.dropWhile (· != '\n')).drop 1

/-- What follows the word `export` and the blanks that have to stand behind it. -/
def skipExport (cs : List Char) : List Char :=
  let word := "export".toList
  let rest := cs.drop word.length
  if word.isPrefixOf cs && (rest.head?.map isInlineBlank).getD false then skipBlanks rest
  else cs

/-- What follows blanks, a comment if there is one, and the end of the line. -/
def lineEnd? (cs : List Char) : Option (List Char) :=
  match skipBlanks cs with
  | [] => some []
  | '\n' :: rest => some rest
  | '#' :: rest => some (skipLine rest)
  | _ => none

/-! ## Names and values -/

/-- The text up to a closing quote, and what follows that. A backslash takes the next character with
it, so that neither a quote nor another backslash behind it counts. -/
def upToQuote (quote : Char) : List Char → Option (List Char × List Char)
  | [] => none
  | '\\' :: c :: cs => (upToQuote quote cs).map fun (inside, rest) => ('\\' :: c :: inside, rest)
  | c :: cs =>
    if c = quote then some ([], cs)
    else (upToQuote quote cs).map fun (inside, rest) => (c :: inside, rest)

def singleEscape? (c : Char) : Option Char := if c ∈ ['\\', '\''] then some c else none

def doubleEscape? (c : Char) : Option Char :=
  if c ∈ ['\\', '\'', '"'] then some c
  else if c = 'a' then some '\x07'
  else if c = 'b' then some '\x08'
  else if c = 'f' then some '\x0c'
  else if c = 'n' then some '\n'
  else if c = 'r' then some '\r'
  else if c = 't' then some '\t'
  else if c = 'v' then some '\x0b'
  else none

def unescape (escape? : Char → Option Char) : List Char → List Char
  | [] => []
  | '\\' :: c :: cs =>
    match escape? c with
    | some d => d :: unescape escape? cs
    | none => '\\' :: unescape escape? (c :: cs)
  | c :: cs => c :: unescape escape? cs

/-- A line up to a comment, which begins with a blank and a number sign. -/
def beforeComment : List Char → List Char
  | [] => []
  | c :: cs =>
    if Text.isBlank c && (cs.dropWhile Text.isBlank).head? = some '#' then []
    else c :: beforeComment cs

/-- The name at the front, none in front of a comment, and what follows it. -/
def name? : List Char → Option (Option String × List Char)
  | '#' :: cs => some (none, '#' :: cs)
  | '\'' :: cs =>
    let name := cs.takeWhile (· != '\'')
    match cs.dropWhile (· != '\'') with
    | _ :: rest => if name.isEmpty then none else some (some (String.ofList name), rest)
    | [] => none
  | cs =>
    let isPart (c : Char) := c != '=' && c != '#' && !Text.isBlank c
    let name := cs.takeWhile isPart
    if name.isEmpty then none else some (some (String.ofList name), cs.dropWhile isPart)

def rawValue? : List Char → Option (String × List Char)
  | '\'' :: cs => (upToQuote '\'' cs).map fun (inside, rest) =>
    (String.ofList (unescape singleEscape? inside), rest)
  | '"' :: cs => (upToQuote '"' cs).map fun (inside, rest) =>
    (String.ofList (unescape doubleEscape? inside), rest)
  | cs =>
    let line := cs.takeWhile (· != '\n')
    some (String.ofList (Text.trimEndBy Text.isBlank (beforeComment line)),
      cs.dropWhile (· != '\n'))

/-- The value behind a sign of equality, and what follows it. Blanks in front of a comment leave no
value. -/
def valueBehind? (cs : List Char) : Option (String × List Char) :=
  let rest := skipBlanks cs
  if rest.length < cs.length && rest.head? = some '#' then some ("", rest) else rawValue? rest

/-- A name with its raw value, if it has one. -/
abbrev Binding := String × Option String

/-- What a line binds, and what follows the line. -/
def line? (cs : List Char) : Option (Option Binding × List Char) := do
  let (name, cs) ← name? (skipExport cs)
  match skipBlanks cs with
  | '=' :: rest => do
    let (value, rest) ← valueBehind? rest
    let rest ← lineEnd? rest
    return (name.map (·, some value), rest)
  | rest => do
    let rest ← lineEnd? rest
    return (name.map (·, none), rest)

/-- What follows the place where a line stops being one. -/
def afterFault (cs : List Char) : List Char :=
  let fault : List Char :=
    match name? (skipExport cs) with
    | none => skipExport cs
    | some (_, rest) =>
      match skipBlanks rest with
      | '=' :: rest =>
        match valueBehind? rest with
        | none => skipBlanks rest
        | some (_, rest) => rest
      | rest => rest
  skipLine fault

/-- The bindings of a file. Each line takes something away; reading ends where one does not. -/
def bindingsOf (cs : List Char) : List Binding :=
  let start := cs.dropWhile Text.isBlank
  if start.isEmpty then []
  else
    let (binding?, rest) := (line? start).getD (none, afterFault start)
    if _h : rest.length < cs.length then binding?.toList ++ bindingsOf rest else binding?.toList
termination_by cs.length

/-- The characters of a file without the mark that tells the order of its octets. -/
def dropOrderMark : List Char → List Char
  | '\uFEFF' :: cs => cs
  | cs => cs

def bindings (file : String) : List Binding :=
  bindingsOf (lineFeeds (dropOrderMark file.toList))

/-! ## Variables inside values -/

/-- What values are expanded with: the environment goes before the names bound so far. -/
structure Scope where
  env : Environment
  bound : List Binding

/-- What a name stands for, nothing if it is bound without a value, or else a default. -/
def Scope.get (scope : Scope) (name default : String) : String :=
  match value? scope.env name with
  | some v => v
  | none =>
    match scope.bound.lookup name with
    | some value? => value?.getD ""
    | none => default

/-- The reference behind a dollar sign and a brace: its name, its default, and what follows it. -/
def reference? (cs : List Char) : Option (String × String × List Char) :=
  let isPart (c : Char) := c != '\x7d' && c != ':'
  let name := String.ofList (cs.takeWhile isPart)
  match cs.dropWhile isPart with
  | '\x7d' :: rest => some (name, "", rest)
  | ':' :: '-' :: rest =>
    match rest.dropWhile (· != '\x7d') with
    | _ :: after => some (name, String.ofList (rest.takeWhile (· != '\x7d')), after)
    | [] => none
  | _ => none

/-- A value with its references replaced. The fuel is its length. -/
def expandChars (scope : Scope) : Nat → List Char → List Char
  | 0, _ => []
  | _ + 1, [] => []
  | fuel + 1, '$' :: '\x7b' :: cs =>
    match reference? cs with
    | some (name, default, rest) => (scope.get name default).toList ++ expandChars scope fuel rest
    | none => '$' :: expandChars scope fuel ('\x7b' :: cs)
  | fuel + 1, c :: cs => c :: expandChars scope fuel cs

def expand (scope : Scope) (v : String) : String :=
  String.ofList (expandChars scope v.toList.length v.toList)

/-- A list of bindings with one of them set in its place. -/
def rebind (b : Binding) : List Binding → List Binding
  | [] => [b]
  | c :: rest => if c.1 = b.1 then b :: rest else c :: rebind b rest

/-- The bindings with their values expanded in turn, the last one of a name winning. -/
def resolve (env : Environment) (file : String) : List Binding :=
  (bindings file).foldl
    (fun bound b => rebind (b.1, b.2.map (expand ⟨env, bound⟩)) bound) []

/-- The variables of a file that are not set yet. -/
def added (env : Environment) (file : String) : Environment :=
  (resolve env file).filterMap fun b =>
    if (value? env b.1).isSome then none else b.2.map (b.1, ·)

/-- Whether an environment can hold a variable: no NUL is in it, and no sign of equality in its
name. -/
def canHold (v : String × String) : Bool :=
  '=' ∉ v.1.toList && '\x00' ∉ v.1.toList ++ v.2.toList

def load (env : Environment) (file : String) : Except Failure Environment :=
  match (added env file).find? fun v => !canHold v with
  | none => .ok (env ++ added env file)
  | some v => .error (.unfitVariable v.1)

/-- The names that the references of a value mention. The fuel is its length. -/
def references : Nat → List Char → List String
  | 0, _ => []
  | _ + 1, [] => []
  | fuel + 1, '$' :: '\x7b' :: cs =>
    match reference? cs with
    | some (name, _, rest) => name :: references fuel rest
    | none => references fuel cs
  | fuel + 1, _ :: cs => references fuel cs

def mentioned (file : String) : List String :=
  (bindings file).flatMap fun b =>
    let value := (b.2.getD "").toList
    b.1 :: references value.length value

end CertGate.EnvFile
