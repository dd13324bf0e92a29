/-!
# Dates

A `Date` is a day of the proleptic Gregorian calendar from year 1 to year 9999, real by
construction. `Date.next?` and `Date.previous?` are the neighbouring days, and `Date.dayNumber`
counts days from the first one, so that later dates have larger numbers.
-/

namespace CertGate

def isLeapYear (year : Nat) : Bool := year % 4 == 0 && (year % 100 != 0 || year % 400 == 0)

def daysInMonth (year month : Nat) : Nat :=
  if month = 2 then (if isLeapYear year then 29 else 28)
  else if month = 4 || month = 6 || month = 9 || month = 11 then 30
  else 31

/-- Whether month and day exist in a year. -/
def isDayOf (year month day : Nat) : Bool :=
  1 ≤ month && month ≤ 12 && 1 ≤ day && day ≤ daysInMonth year month

/-- A day from 1 January 1 to 31 December 9999. -/
structure Date where
  year : Nat
  month : Nat
  day : Nat
  real : (1 ≤ year && year ≤ 9999 && isDayOf year month day) = true
  deriving DecidableEq

namespace Date

instance : Repr Date := ⟨fun d _ => repr (d.year, d.month, d.day)⟩

def of? (year month day : Nat) : Option Date :=
  if h : (1 ≤ year && year ≤ 9999 && isDayOf year month day) = true then
    some ⟨year, month, day, h⟩
  else none

def first : Date := ⟨1, 1, 1, by decide⟩

def next? (d : Date) : Option Date :=
  if d.day < daysInMonth d.year d.month then of? d.year d.month (d.day + 1)
  else if d.month < 12 then of? d.year (d.month + 1) 1
  else of? (d.year + 1) 1 1

def previous? (d : Date) : Option Date :=
  if 1 < d.day then of? d.year d.month (d.day - 1)
  else if 1 < d.month then of? d.year (d.month - 1) (daysInMonth d.year (d.month - 1))
  else of? (d.year - 1) 12 31

def daysBeforeYear (year : Nat) : Nat :=
  let n := year - 1
  n * 365 + n / 4 - n / 100 + n / 400

def daysBeforeMonth (year : Nat) : Nat → Nat
  | 0 => 0
  | month + 1 => if month = 0 then 0 else daysBeforeMonth year month + daysInMonth year month

/-- The number of the day, counted from nought. -/
def dayNumber (d : Date) : Nat :=
  daysBeforeYear d.year + daysBeforeMonth d.year d.month + (d.day - 1)

end Date
end CertGate
