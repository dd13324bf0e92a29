import CertGate.Advice
import CertGate.Command.Switch

/-!
# Advice in print

* `Report.text` : all advice under its headings, errors first, each group sorted by its lines;
* `Report.count` : how many pieces of advice there are;
* `Report.isBlocking` : whether a command may not run against the advice.

A `Paint` is how texts are coloured, if they are.
-/

namespace CertGate

def withLineEnd (s : String) : String := if s.endsWith "\n" then s else s ++ "\n"

/-- What a text is about, which gives it a colour. -/
inductive Tone
  | error
  | warning
  | success
  deriving DecidableEq, Repr

def Tone.code : Tone → String
  | error => "31;1"
  | warning => "33;1"
  | success => "32;1"

/-- Whether texts are coloured. -/
abbrev Paint := Bool

def Paint.apply (p : Paint) (t : Tone) (s : String) : String :=
  if p then "\x1b[" ++ t.code ++ "m" ++ s ++ "\x1b[0m" else s

namespace Report

/-- A piece of advice as a line, with its hint on another. -/
def adviceText (a : Advice) : String :=
  "?: (" ++ a.id ++ ") " ++ a.text ++ (a.hint?.map ("\n\tHINT: " ++ ·)).getD ""

def tone : Gravity → Tone
  | .error => .error
  | .warning => .warning

/-- The advice of one gravity under a heading, or nothing without any. -/
def group (p : Paint) (heading : String) (gravity : Gravity) (all : List Advice) : String :=
  let these := all.filter fun a => a.gravity = gravity
  let texts := these.map fun a => p.apply (tone gravity) (adviceText a)
  if texts.isEmpty then ""
  else "\n" ++ heading ++ ":\n" ++ String.join ((texts.mergeSort (· ≤ ·)).map (· ++ "\n"))

def header : String := "System check identified some issues:\n"

def body (p : Paint) (all : List Advice) : String :=
  group p "ERRORS" .error all ++ group p "WARNINGS" .warning all

def text (p : Paint) (all : List Advice) : String := header ++ body p all

/-- All advice, when it keeps a command from running. -/
def blockingText (p : Paint) (all : List Advice) : String :=
  p.apply .error ("SystemCheckError: " ++ header) ++ body p all

def count (all : List Advice) : String :=
  let issues := match all.length with
    | 0 => "no issues"
    | 1 => "1 issue"
    | n => Text.decimalText n ++ " issues"
  "System check identified " ++ issues ++ " (0 silenced)."

def reaches (t : Threshold) : Gravity → Bool
  | .error => t != .critical
  | .warning => t != .critical && t != .error

def isBlocking (t : Threshold) (all : List Advice) : Bool := all.any fun a => reaches t a.gravity

end Report
end CertGate
