import TopicSieve.Instant.Basic
import TopicSieve.Text.Blank

/-!
Two readers of written times. The strict one takes fixed columns, as the configuration does, and
checks the date and the time of day each as a whole. The lenient one, for messages, takes white
space between the parts, fewer digits and signed years, and checks each number as soon as it is
read. Of several faults, the one that is met first is reported.
-/

namespace TopicSieve.Instant

def readDigits (width : Option Nat) (text : Text) : Except TimeError (Nat × Text) :=
  let run := text.takeWhile Text.isDigit
  let digits := match width with
    | some width => run.take width
    | none => run
  if text.isEmpty then .error .tooShort
  else if digits.isEmpty then .error .invalid
  else
    let value := Text.decimalValue digits
    if twoTo 63 ≤ value then .error .outOfRange else .ok (value, text.drop digits.length)

def expect (char : Char) : Text → Except TimeError Text
  | [] => .error .tooShort
  | head :: rest => if head = char then .ok rest else .error .invalid

def inRange (least greatest value : Nat) : Except TimeError Nat :=
  if least ≤ value ∧ value ≤ greatest then .ok value else .error .outOfRange

def readNanos (text : Text) : Except TimeError (Nat × Text) := do
  let (value, rest) ← readDigits (some 9) text
  .ok (value * tenTo (9 - (text.length - rest.length)), rest.dropWhile Text.isDigit)

def readFraction : Text → Except TimeError (Nat × Text)
  | '.' :: rest => readNanos rest
  | text => .ok (0, text)

def readTwoDigits (tens : Nat) (text : Text) : Except TimeError (Nat × Text) :=
  if Text.byteLength text < 2 then .error .tooShort
  else
    match text with
    | first :: second :: rest =>
        match Text.digitValue? first, Text.digitValue? second with
        | some first, some second =>
            if tens < first then .error .outOfRange else .ok (first * 10 + second, rest)
        | _, _ => .error .invalid
    | _ => .error .invalid

def readSign : Text → Except TimeError (Bool × Text)
  | [] => .error .tooShort
  | head :: rest =>
      if head = '+' then .ok (false, rest)
      else if head = '-' ∨ head = '\u2212' then .ok (true, rest)
      else .error .invalid

/-- Reads a distance from UTC in seconds. `separate` passes over what stands between the hours and
the minutes. -/
def readOffset (separate : Text → Except TimeError Text) (text : Text) :
    Except TimeError (Int × Text) :=
  match text with
  | 'Z' :: rest => .ok (0, rest)
  | 'z' :: rest => .ok (0, rest)
  | _ => do
      let (negative, rest) ← readSign text
      let (hours, rest) ← readTwoDigits 9 rest
      let rest ← separate rest
      let (minutes, rest) ← readTwoDigits 5 rest
      let seconds : Int := 3600 * hours + 60 * minutes
      .ok (if negative then -seconds else seconds, rest)

def expectDivider : Text → Except TimeError Text
  | [] => .error .tooShort
  | head :: rest => if head = 'T' ∨ head = 't' ∨ head = ' ' then .ok rest else .error .invalid

def readColumn : Nat → Nat → Text → Except TimeError (Nat × Text)
  | 0, value, text => .ok (value, text)
  | width + 1, value, text =>
      match text with
      | [] => .error .tooShort
      | head :: rest =>
          match Text.digitValue? head with
          | some digit => readColumn width (value * 10 + digit) rest
          | none => .error .invalid

def readDateColumns (text : Text) : Except TimeError (Date × Text) := do
  let (year, rest) ← readColumn 4 0 text
  let rest ← expect '-' rest
  let (month, rest) ← readColumn 2 0 rest
  let rest ← expect '-' rest
  let (day, rest) ← readColumn 2 0 rest
  let date : Date := ⟨year, month, day⟩
  if date.isValid then .ok (date, rest) else .error .outOfRange

def readTimeColumns (text : Text) : Except TimeError (TimeOfDay × Text) := do
  let (hour, rest) ← readColumn 2 0 text
  let rest ← expect ':' rest
  let (minute, rest) ← readColumn 2 0 rest
  let rest ← expect ':' rest
  let (second, rest) ← readColumn 2 0 rest
  let (nanos, rest) ← readFraction rest
  let time : TimeOfDay := ⟨hour, minute, second, nanos⟩
  if time.isValid then .ok (time, rest) else .error .outOfRange

def strictLength : Nat := 19

def readStrict (text : Text) : Except TimeError Instant :=
  if Text.byteLength text < strictLength then .error .tooShort
  else do
    let (date, rest) ← readDateColumns text
    let rest ← expectDivider rest
    let (time, rest) ← readTimeColumns rest
    let (offset, rest) ← readOffset (expect ':') rest
    if !rest.isEmpty then .error .tooLong
    else ofWritten ⟨date, time, offset⟩

def readYear (text : Text) : Except TimeError (Int × Text) := do
  let (year, rest) ← match Text.trimStart text with
    | '-' :: rest => do
        let (value, rest) ← readDigits none rest
        .ok (-(value : Int), rest)
    | '+' :: rest => do
        let (value, rest) ← readDigits none rest
        .ok ((value : Int), rest)
    | rest => do
        let (value, rest) ← readDigits (some 4) rest
        .ok ((value : Int), rest)
  if -(twoTo 31 : Int) ≤ year ∧ year < twoTo 31 then .ok (year, rest) else .error .outOfRange

def readPart (least greatest : Nat) (text : Text) : Except TimeError (Nat × Text) := do
  let (value, rest) ← readDigits (some 2) (Text.trimStart text)
  let value ← inRange least greatest value
  .ok (value, rest)

def expectPart (char : Char) (text : Text) : Except TimeError Text :=
  expect char (Text.trimStart text)

def skipColons (text : Text) : Except TimeError Text :=
  .ok (text.dropWhile fun char => char == ':' || Text.isBlank char)

def readZone (text : Text) : Except TimeError (Int × Text) :=
  if Text.sameAscii (text.take 3) "utc" then .ok (0, text.drop 3)
  else readOffset skipColons text

def readWrittenLenient (text : Text) : Except TimeError (WrittenTime × Text) := do
  let (year, rest) ← readYear text
  let rest ← expectPart '-' rest
  let (month, rest) ← readPart 1 12 rest
  let rest ← expectPart '-' rest
  let (day, rest) ← readPart 1 31 rest
  let rest ← expectDivider rest
  let (hour, rest) ← readPart 0 23 rest
  let rest ← expectPart ':' rest
  let (minute, rest) ← readPart 0 59 rest
  let rest ← expectPart ':' rest
  let (second, rest) ← readPart 0 60 rest
  let (nanos, rest) ← readFraction rest
  let (offset, rest) ← readZone (Text.trimStart rest)
  .ok (⟨⟨year, month, day⟩, ⟨hour, minute, second, nanos⟩, offset⟩, rest)

def readLenient (text : Text) : Except TimeError Instant := do
  let (written, rest) ← readWrittenLenient text
  if !(Text.trimStart rest).isEmpty then .error .tooLong else ofWritten written

end TopicSieve.Instant
