import TopicSieve.Instant.Basic

/-!
Writing instants as date, time of day and distance from UTC.
-/

namespace TopicSieve.Instant

def yearText (year : Int) : Text :=
  if 0 ≤ year ∧ year ≤ 9999 then Text.padded 4 year.natAbs
  else (if year < 0 then '-' else '+') :: Text.padded 4 year.natAbs

def clockText (instant : Instant) : Text :=
  let second := instant.secondOfDay
  let leap := if nanosPerSecond ≤ instant.nanos then 1 else 0
  Text.padded 2 (second / 3600) ++ ":" ++ Text.padded 2 (second / 60 % 60) ++ ":" ++
    Text.padded 2 (second % 60 + leap)

def dateText (instant : Instant) : Text :=
  let date := instant.date
  yearText date.year ++ "-" ++ Text.padded 2 date.month ++ "-" ++ Text.padded 2 date.day

def fractionText (instant : Instant) : Text :=
  let nanos := instant.nanos % nanosPerSecond
  if nanos = 0 then []
  else if nanos % 1000000 = 0 then '.' :: Text.padded 3 (nanos / 1000000)
  else if nanos % 1000 = 0 then '.' :: Text.padded 6 (nanos / 1000)
  else '.' :: Text.padded 9 nanos

def text (instant : Instant) : Text :=
  instant.dateText ++ "T" ++ instant.clockText ++ instant.fractionText ++ "+00:00"

def textTo (places : Nat) (instant : Instant) : Text :=
  let fraction := instant.nanos % nanosPerSecond / tenTo (9 - places)
  instant.dateText ++ "T" ++ instant.clockText ++ "." ++ Text.padded places fraction ++ "Z"

end TopicSieve.Instant
