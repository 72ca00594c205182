/-!
Dates of the Gregorian calendar, extended to all years, and their day numbers. Day 0 is the first of
January of the year 1970.
-/

namespace TopicSieve

structure Date where
  year : Int
  month : Nat
  day : Nat
deriving Repr, DecidableEq

namespace Date

def isLeap (year : Int) : Bool := year % 4 = 0 && (year % 100 ≠ 0 || year % 400 = 0)

def monthLengths (year : Int) : List Nat :=
  [31, if isLeap year then 29 else 28, 31, 30, 31, 30, 31, 31, 30, 31, 30, 31]

def isValid (date : Date) : Bool :=
  1 ≤ date.month && 1 ≤ date.day &&
    date.day ≤ ((monthLengths date.year)[date.month - 1]?).getD 0

def daysBeforeYear (year : Int) : Int :=
  let past := year - 1
  365 * past + past / 4 - past / 100 + past / 400

def epoch : Int := 719162

def daysOf (lengths : List Nat) : Nat := lengths.foldr (· + ·) 0

def dayNumber (date : Date) : Int :=
  daysBeforeYear date.year + daysOf ((monthLengths date.year).take (date.month - 1)) +
    (date.day - 1 : Int) - epoch

def monthAndDay : Nat → List Nat → Nat → Nat × Nat
  | month, [], days => (month, days + 1)
  | month, length :: rest, days =>
      if days < length then (month, days + 1) else monthAndDay (month + 1) rest (days - length)

/-- The year that contains the day that lies a number of days after the start of the year 1. The
mean length of a year gives a guess that is wrong by at most one. -/
def yearOf (days : Int) : Int :=
  let guess := 400 * days / 146097 + 1
  if days < daysBeforeYear guess then guess - 1
  else if daysBeforeYear (guess + 1) ≤ days then guess + 1
  else guess

def ofDayNumber (number : Int) : Date :=
  let days := number + epoch
  let year := yearOf days
  let (month, day) := monthAndDay 1 (monthLengths year) (days - daysBeforeYear year).toNat
  ⟨year, month, day⟩

end Date

end TopicSieve
