import CertGate.Value

/-!
# Values as they are shown

`Value.show` words a value for a message: texts in quotes, containers in their brackets, providers
by their kind. `Value.toText` leaves a text as it is.
-/

namespace CertGate

def commaSeparated (parts : List String) : String := String.intercalate ", " parts

/-- A duration in microseconds as days, seconds and microseconds, the last two counted forwards from
the start of a day. -/
def showDuration (micros : Int) : String :=
  let part (name : String) (n : Int) := if n = 0 then [] else [name ++ "=" ++ Text.integerText n]
  let rest := micros % Moment.dayLength
  let parts := part "days" (micros / Moment.dayLength) ++ part "seconds" (rest / 1000000) ++
    part "microseconds" (rest % 1000000)
  "datetime.timedelta(" ++ (if parts.isEmpty then "0" else commaSeparated parts) ++ ")"

def showOffset (offset : Int) : String :=
  if offset = 0 then "datetime.timezone.utc"
  else "datetime.timezone(" ++ showDuration offset ++ ")"

/-- A timestamp by its parts, without seconds and microseconds when they are nought. -/
def Timestamp.show (t : Timestamp) : String :=
  let m := t.clock
  let seconds := if m.secondOfMinute = 0 && m.micro.val = 0 then [] else [m.secondOfMinute]
  let micros := if m.micro.val = 0 then [] else [m.micro.val]
  let parts := [m.date.year, m.date.month, m.date.day, m.hour, m.minute] ++ seconds ++ micros
  let zone := (t.offset?.map fun o => ["tzinfo=" ++ showOffset o]).getD []
  "datetime.datetime(" ++ commaSeparated (parts.map Text.decimalText ++ zone) ++ ")"

/-- Items in round brackets, a single one with a comma behind it. -/
def showTuple (parts : List String) : String :=
  match parts with
  | [part] => "(" ++ part ++ ",)"
  | parts => "(" ++ commaSeparated parts ++ ")"

def quotedOctet (quote : Char) (b : UInt8) : List Char :=
  if 128 ≤ b then '\\' :: 'x' :: Text.padded 16 2 b.toNat
  else Text.quotedChar quote (Char.ofNat b.toNat)

/-- Octets as they are shown, those of ASCII as characters. -/
def showOctets (bs : List UInt8) : String :=
  let quote := Text.quoteFor (bs.map fun b => Char.ofNat b.toNat)
  String.ofList ('b' :: quote :: bs.flatMap (quotedOctet quote) ++ [quote])

mutual

def Value.show : Value → String
  | .null => "None"
  | .bool b => if b then "True" else "False"
  | .int n => Text.integerText n
  | .decimal d => d.text
  | .text s => Text.quoted s
  | .octets bs => showOctets bs
  | .time t => t.show
  | .list items => "[" ++ commaSeparated (Value.showItems items) ++ "]"
  | .tuple items => showTuple (Value.showItems items)
  | .set items =>
    if items.isEmpty then "set()" else "\x7b" ++ commaSeparated (Value.showItems items) ++ "\x7d"
  | .mapping entries => "\x7b" ++ commaSeparated (Value.showEntries entries) ++ "\x7d"
  | .provider p => p.show
  | .object o => o.shown

def Value.showItems : List Value → List String
  | [] => []
  | v :: vs => v.show :: Value.showItems vs

def Value.showEntries : List (String × Value) → List String
  | [] => []
  | (key, v) :: rest => (Text.quoted key ++ ": " ++ v.show) :: Value.showEntries rest

def Provider.show : Provider → String
  | .fixed v => "StaticEnforcementPolicy(" ++ v.show ++ ")"
  | .fromSettings => "<x509auth.policy.SettingsEnforcementPolicy object>"
  | .fromEnvironment .. => "<x509auth.policy.EnvironmentEnforcementPolicy object>"
  | .callable .. | .strategy .. | .holder _ => "Provider"
  | .function name _ => "<function " ++ name ++ ">"
  | .type shown .. => shown

end

/-- The value inside a text: a text as it is, anything else as it is shown. -/
def Value.toText : Value → String
  | .text s => s
  | .time t => t.spacedText
  | v => v.show

end CertGate
