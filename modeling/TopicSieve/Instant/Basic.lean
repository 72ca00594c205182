import TopicSieve.Instant.Date
import TopicSieve.Number.Power
import TopicSieve.Text.Basic

/-!
Instants of time in UTC, to the nanosecond. A leap second counts as part of the second before it: it
is told apart by a nanosecond part of a thousand million or more.
-/

namespace TopicSieve

/-- `seconds` counts from the start of 1970. -/
structure Instant where
  seconds : Int
  nanos : Nat
deriving Repr, DecidableEq

inductive TimeError where
  | outOfRange
  | impossible
  | invalid
  | tooShort
  | tooLong
deriving Repr, DecidableEq

def TimeError.message : TimeError → Text
  | outOfRange => "input is out of range"
  | impossible => "no possible date and time matching input"
  | invalid => "input contains invalid characters"
  | tooShort => "premature end of input"
  | tooLong => "trailing input"

/-- A time of day as it is written. Second 60 is a leap second. -/
structure TimeOfDay where
  hour : Nat
  minute : Nat
  second : Nat
  nanos : Nat
deriving Repr, DecidableEq

def TimeOfDay.isValid (time : TimeOfDay) : Bool :=
  time.hour ≤ 23 && time.minute ≤ 59 && time.second ≤ 60

structure WrittenTime where
  date : Date
  time : TimeOfDay
  offset : Int
deriving Repr, DecidableEq

namespace Instant

def secondsPerDay : Int := 86400

def nanosPerSecond : Nat := 1000000000

def leastYear : Int := -262143

def greatestYear : Int := 262142

def isRepresented (year : Int) : Bool := leastYear ≤ year && year ≤ greatestYear

def date (instant : Instant) : Date := Date.ofDayNumber (instant.seconds / secondsPerDay)

def secondOfDay (instant : Instant) : Nat := (instant.seconds % secondsPerDay).toNat

def ofWritten (written : WrittenTime) : Except TimeError Instant :=
  if !(isRepresented written.date.year && written.date.isValid) then .error .outOfRange
  else if secondsPerDay ≤ written.offset.natAbs then .error .outOfRange
  else
    let time := written.time
    let nanos := if time.second = 60 then nanosPerSecond + time.nanos else time.nanos
    let secondOfDay : Int := 3600 * time.hour + 60 * time.minute + min time.second 59
    let seconds := written.date.dayNumber * secondsPerDay + secondOfDay - written.offset
    let instant : Instant := ⟨seconds, nanos⟩
    if isRepresented instant.date.year then .ok instant else .error .impossible

def ofMillis? (millis : Int) : Option Instant :=
  let instant : Instant := ⟨millis / 1000, (millis % 1000).toNat * 1000000⟩
  if isRepresented instant.date.year then some instant else none

end Instant

end TopicSieve
