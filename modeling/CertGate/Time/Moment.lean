import CertGate.Text.Digits
import CertGate.Time.Date

/-!
# Moments and timestamps

* `Moment` : a date and a time of day to the microsecond, as a clock in one place shows them;
* `Timestamp` : a moment with the distance of that place from universal time, or without one;
* `Moment.rank`, `Timestamp.rank?` : microseconds from the first moment in universal time, by which
  instants are compared;
* `Moment.isoText`, `Timestamp.isoText` : the ISO form, with microseconds only when there are any;
* `Timestamp.toUniversal?` : the moment in universal time, unless it lies outside all dates.
-/

namespace CertGate

structure Moment where
  date : Date
  second : Fin 86400
  micro : Fin 1000000
  deriving DecidableEq, Repr

namespace Moment

def of? (date : Date) (hour minute second micro : Nat) : Option Moment :=
  let n := hour * 3600 + minute * 60 + second
  if h : hour < 24 ∧ minute < 60 ∧ second < 60 ∧ micro < 1000000 then
    some ⟨date, ⟨n, by omega⟩, ⟨micro, h.2.2.2⟩⟩
  else none

def dayLength : Nat := 86400000000

def sinceMidnight (m : Moment) : Nat := m.second * 1000000 + m.micro

/-- Microseconds from the first moment. -/
def rank (m : Moment) : Nat := m.date.dayNumber * dayLength + m.sinceMidnight

/-- The moment of a date some microseconds after midnight, the days in them left out. -/
def onDay (date : Date) (n : Nat) : Moment :=
  ⟨date, ⟨n / 1000000 % 86400, by omega⟩, ⟨n % 1000000, by omega⟩⟩

def hour (m : Moment) : Nat := m.second / 3600

def minute (m : Moment) : Nat := m.second / 60 % 60

def secondOfMinute (m : Moment) : Nat := m.second % 60

def dateText (m : Moment) : String :=
  String.ofList (Text.padded 10 4 m.date.year ++ '-' :: Text.padded 10 2 m.date.month ++
    '-' :: Text.padded 10 2 m.date.day)

/-- Hour, minute and second with colons, and the microseconds if there are any. -/
def timeText (m : Moment) : String :=
  String.ofList (Text.padded 10 2 m.hour ++ ':' :: Text.padded 10 2 m.minute ++
    ':' :: Text.padded 10 2 m.secondOfMinute ++
    (if m.micro.val = 0 then [] else '.' :: Text.padded 10 6 m.micro))

def isoText (m : Moment) : String := m.dateText ++ "T" ++ m.timeText

/-- The moment some microseconds later or earlier, less than a day away. -/
def shift? (m : Moment) (micros : Int) : Option Moment :=
  let n : Int := m.sinceMidnight + micros
  let at? (date? : Option Date) (n : Int) : Option Moment := date?.map fun d => onDay d n.toNat
  if n < 0 then at? m.date.previous? (n + dayLength)
  else if n < dayLength then at? (some m.date) n
  else at? m.date.next? (n - dayLength)

end Moment

/-- A moment on a clock that is ahead of universal time by `offset?` microseconds, less than a day,
if that is known. -/
structure Timestamp where
  clock : Moment
  offset? : Option Int
  deriving DecidableEq, Repr

namespace Timestamp

def universal (m : Moment) : Timestamp := ⟨m, some 0⟩

/-- Microseconds from the first moment in universal time, if the offset is known. -/
def rank? (t : Timestamp) : Option Int :=
  t.offset?.map fun o => (t.clock.rank : Int) - o

/-- Sign, hours and minutes of an offset, and its seconds and microseconds if there are any. -/
def offsetText (offset : Int) : String :=
  let part (n : Nat) := Text.padded 10 2 n
  let micros := offset.natAbs % 1000000
  let n := offset.natAbs / 1000000
  let sign := if offset < 0 then '-' else '+'
  String.ofList (sign :: part (n / 3600) ++ ':' :: part (n / 60 % 60) ++
    (if n % 60 = 0 && micros = 0 then [] else ':' :: part (n % 60)) ++
    (if micros = 0 then [] else '.' :: Text.padded 10 6 micros))

def suffix (t : Timestamp) : String := (t.offset?.map offsetText).getD ""

def isoText (t : Timestamp) : String := t.clock.isoText ++ t.suffix

def spacedText (t : Timestamp) : String :=
  t.clock.dateText ++ " " ++ t.clock.timeText ++ t.suffix

/-- The moment in universal time, a clock without offset taken to show it already. -/
def toUniversal? (t : Timestamp) : Option Moment :=
  match t.offset? with
  | none => some t.clock
  | some o => t.clock.shift? (-o)

end Timestamp
end CertGate
