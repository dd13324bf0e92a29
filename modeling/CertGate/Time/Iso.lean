import CertGate.Time.Moment

/-!
# Reading ISO times

`Timestamp.ofIso?` reads a date and a time of day. The date is a month and a day, or a week and a
day of it; the parts of the time may stand with colons or without, and may be left out from the end;
any character may stand between date and time. Digits beyond the microsecond are dropped.
-/

namespace CertGate

def Date.after? (d : Date) : Nat → Option Date
  | 0 => some d
  | n + 1 => d.next?.bind fun e => e.after? n

/-- The day of the week, Monday being nought. -/
def Date.weekday (d : Date) : Nat := d.dayNumber % 7

namespace Iso

/-- The number of exactly `n` decimal digits at the front, and what follows it. -/
def number? (n : Nat) (cs : List Char) : Option (Nat × List Char) :=
  let ds := cs.take n
  if ds.length = n then (Text.ofDigits? 10 ds).map (·, cs.drop n) else none

/-- What follows a character that has to stand at the front. -/
def expect? (c : Char) : List Char → Option (List Char)
  | [] => none
  | d :: cs => if d = c then some cs else none

/-! ## Dates -/

/-- Whether a year has a week of some number: the 53rd is there when the year begins on a Thursday,
or on a Wednesday and is a leap year. -/
def hasWeek (start : Date) (week : Nat) : Bool :=
  (1 ≤ week && week ≤ 52) ||
    (week = 53 && (start.weekday = 3 || (start.weekday = 2 && isLeapYear start.year)))

/-- The date of a day in a week. The first week of a year is the one with its first Thursday. -/
def ofWeek? (year week day : Nat) : Option Date := do
  let start ← Date.of? year 1 1
  if hasWeek start week && 1 ≤ day && day ≤ 7 then
    let days := (week - 1) * 7 + (day - 1)
    let w := start.weekday
    if 3 < w then start.after? (days + (7 - w))
    else if w ≤ days then start.after? (days - w)
    else Date.of? (year - 1) 12 (32 + days - w)
  else none

/-- What follows a hyphen, if the parts of the date are divided by hyphens. -/
def hyphen? (divided : Bool) (cs : List Char) : Option (List Char) :=
  if divided then expect? '-' cs else some cs

def date? (cs : List Char) : Option Date := do
  let (year, cs) ← number? 4 cs
  let divided := cs.head? = some '-'
  match if divided then cs.drop 1 else cs with
  | 'W' :: cs =>
    let (week, cs) ← number? 2 cs
    if cs.isEmpty then ofWeek? year week 1
    else
      let (day, _) ← number? 1 (← hyphen? divided cs)
      ofWeek? year week day
  | cs =>
    let (month, cs) ← number? 2 cs
    let (day, cs) ← number? 2 (← hyphen? divided cs)
    if cs.isEmpty then Date.of? year month day else none

/-- How many characters the date takes up. Where a hyphen behind a week may belong to the date or
not, two digits behind it are hours. -/
def dateLength (cs : List Char) : Nat :=
  let isDigitAt (n : Nat) : Bool := (cs[n]?.map Char.isDigit).getD false
  if cs.length = 7 then 7
  else if cs[4]? = some '-' then
    if cs[5]? = some 'W' && (cs[8]? != some '-' || isDigitAt 10) then 8 else 10
  else if cs[4]? = some 'W' then
    let digits := ((cs.drop 7).takeWhile Char.isDigit).length
    if digits < 2 then 7 + digits else if digits % 2 = 1 then 7 else 8
  else 8

/-! ## Times of day -/

/-- Numbers in a row with the microseconds behind them, and what follows. -/
structure Parts where
  numbers : List Nat
  micro : Nat
  rest : List Char

def Parts.push (n : Nat) (p : Parts) : Parts := { p with numbers := n :: p.numbers }

/-- A number at its place among the parts, nought when it is left out. -/
def Parts.at (p : Parts) (i : Nat) : Nat := p.numbers[i]?.getD 0

/-- The microseconds of a fraction: up to six digits, and more that are dropped. -/
def fraction? (cs : List Char) : Option Parts := do
  let n := min 6 cs.length
  let (micro, rest) ← number? n cs
  return ⟨[], micro * Nat.pow 10 (6 - n), rest.dropWhile Char.isDigit⟩

/-- Up to `left` numbers of two digits, with colons between them or not as behind the first one, and
a fraction behind the last. A single ASCII character behind a number is left for the rest. -/
def parts? : Nat → Option Bool → List Char → Option Parts
  | 0, _, cs => fraction? cs
  | left + 1, colons?, cs => do
    let (n, rest) ← number? 2 cs
    match rest with
    | [] => return ⟨[n], 0, []⟩
    | [c] => if c.toNat < 128 then return ⟨[n], 0, [c]⟩ else none
    | c :: more =>
      let colons := colons?.getD (c = ':')
      if colons && c = ':' then return (← parts? left (some colons) more).push n
      else if c = '.' || c = ',' then return (← fraction? more).push n
      else if colons then none
      else return (← parts? left (some colons) rest).push n

def isZone (c : Char) : Bool := c = '+' || c = '-' || c = 'Z'

/-- The offset that a whole text spells: `Z`, or a sign with hours, minutes and seconds, less than a
day. An offset below a second is none. -/
def offset? : List Char → Option Int
  | [] => none
  | 'Z' :: cs => if cs.isEmpty then some 0 else none
  | sign :: cs => do
    let p ← parts? 3 none cs
    let seconds := p.at 0 * 3600 + p.at 1 * 60 + p.at 2
    let n : Int := if seconds = 0 then 0 else seconds * 1000000 + p.micro
    if p.rest.isEmpty && n < Moment.dayLength then some (if sign = '-' then -n else n) else none

/-- The timestamp of a date and a text for its time. In front of an offset the time may have
something behind it. -/
def onDate? (date : Date) (cs : List Char) : Option Timestamp := do
  let zone := cs.dropWhile (!isZone ·)
  let p ← parts? 3 none (cs.takeWhile (!isZone ·))
  let moment ← Moment.of? date (p.at 0) (p.at 1) (p.at 2) p.micro
  if zone.isEmpty then if p.rest.isEmpty then some ⟨moment, none⟩ else none
  else return ⟨moment, some (← offset? zone)⟩

end Iso

/-- The timestamp of an ISO text. A date alone is its midnight. -/
def Timestamp.ofIso? (s : String) : Option Timestamp := do
  let cs := s.toList
  let n := Iso.dateLength cs
  let date ← Iso.date? (cs.take n)
  match cs.drop n with
  | [] => return ⟨Moment.onDay date 0, none⟩
  | _ :: time => Iso.onDate? date time

end CertGate
