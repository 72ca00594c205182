import TopicSieve.Instant.Date
import TopicSieve.Toml.Value

/-!
Values of a TOML document that are neither strings nor containers: truth values, numbers, dates and
times. They are recognised as a whole, from the characters up to the next delimiter.
-/

namespace TopicSieve.Toml

/-- Digits in groups that are joined by low lines, without the low lines. No group may be empty. -/
def joinGroups? (isDigit : Char → Bool) (text : Text) : Option Text :=
  let groups := Text.splitOn '_' text
  if groups.all fun group => !group.isEmpty && group.all isDigit then some groups.flatten else none

def hasLeadingZero (digits : Text) : Bool := digits.head? == some '0' && 1 < digits.length

def wholeDigits? (text : Text) : Option Text :=
  (joinGroups? Text.isDigit text).filter fun digits => !hasLeadingZero digits

def radixValue (base : Nat) (digits : Text) : Nat :=
  digits.foldl (fun value digit => value * base + (Text.hexValue? digit).getD 0) 0

def radixInteger? (base : Nat) (text : Text) : Option Value :=
  (joinGroups? (fun char => (Text.hexValue? char).any (· < base)) text).map fun digits =>
    .integer (radixValue base digits)

def splitSign : Text → Option Bool × Text
  | '-' :: rest => (some true, rest)
  | '+' :: rest => (some false, rest)
  | text => (none, text)

def wholeInteger? (negative : Bool) (text : Text) : Option Value :=
  (wholeDigits? text).map fun digits =>
    let value : Int := Text.decimalValue digits
    .integer (if negative then -value else value)

def exponent? (text : Text) : Option Int :=
  let (sign, digits) := splitSign text
  (joinGroups? Text.isDigit digits).map fun digits =>
    let value : Int := Text.decimalValue digits
    if sign = some true then -value else value

/-- The largest exponent that is worked out: beyond it the value is zero or too large, whatever its
digits. -/
def exponentBound (digits : Text) : Nat := digits.length + 400

def finiteFloat (digits : Text) (exponent : Int) : FloatValue :=
  let significand := Text.decimalValue digits
  let bound : Int := exponentBound digits
  let exponent := max (-bound) (min bound exponent)
  match Binary64.ofDecimal? significand exponent with
  | some magnitude => .finite magnitude
  | none => .tooLarge

def floatTail? (whole tail : Text) : Option FloatValue :=
  let split := tail.takeWhile fun char => char != 'e' && char != 'E'
  let rest := tail.drop split.length
  let fraction? : Option Text :=
    match split with
    | [] => some []
    | '.' :: digits => joinGroups? Text.isDigit digits
    | _ => none
  let exponent? : Option Int :=
    match rest with
    | [] => some 0
    | _ :: digits => exponent? digits
  if tail.isEmpty then none
  else
    fraction?.bind fun fraction => exponent?.map fun exponent =>
      finiteFloat (whole ++ fraction) (exponent - fraction.length)

def float? (text : Text) : Option FloatValue :=
  if text = "inf" then some .infinite
  else if text = "nan" then some .notANumber
  else
    let whole := text.takeWhile fun char => Text.isDigit char || char == '_'
    (wholeDigits? whole).bind fun digits => floatTail? digits (text.drop whole.length)

def twoDigits? (least greatest : Nat) : Text → Option (Nat × Text)
  | first :: second :: rest =>
      match Text.digitValue? first, Text.digitValue? second with
      | some first, some second =>
          let value := first * 10 + second
          if least ≤ value ∧ value ≤ greatest then some (value, rest) else none
      | _, _ => none
  | _ => none

def after? (char : Char) : Text → Option Text
  | head :: rest => if head = char then some rest else none
  | [] => none

def afterDate? (text : Text) : Option Text := do
  let (century, rest) ← twoDigits? 0 99 text
  let (year, rest) ← twoDigits? 0 99 rest
  let rest ← after? '-' rest
  let (month, rest) ← twoDigits? 1 12 rest
  let rest ← after? '-' rest
  let (day, rest) ← twoDigits? 1 31 rest
  if (Date.mk (century * 100 + year : Nat) month day).isValid then some rest else none

def afterFraction? : Text → Option Text
  | '.' :: rest =>
      if (rest.head?.any Text.isDigit) then some (rest.dropWhile Text.isDigit) else none
  | text => some text

def afterTime? (text : Text) : Option Text := do
  let (_, rest) ← twoDigits? 0 24 text
  let rest ← after? ':' rest
  let (_, rest) ← twoDigits? 0 59 rest
  match rest with
  | ':' :: rest =>
      let (_, rest) ← twoDigits? 0 60 rest
      afterFraction? rest
  | _ => some rest

def afterOffset? : Text → Option Text
  | [] => some []
  | 'Z' :: rest => some rest
  | 'z' :: rest => some rest
  | sign :: rest => do
      let (hours, rest) ← twoDigits? 0 24 rest
      let rest ← after? ':' rest
      let (minutes, rest) ← twoDigits? 0 59 rest
      if (sign = '+' ∨ sign = '-') ∧ hours * 60 + minutes ≤ 24 * 60 then some rest else none

def isDatetime (text : Text) : Bool :=
  let isTime := afterTime? text == some []
  let isDate := (afterDate? text).any fun rest =>
    match rest with
    | [] => true
    | mark :: rest =>
        (mark == 'T' || mark == 't' || mark == ' ') &&
          ((afterTime? rest).bind afterOffset?) == some []
  isTime || isDate

def scalar? (text : Text) : Option Value :=
  if text = "true" then some (.boolean true)
  else if text = "false" then some (.boolean false)
  else if isDatetime text then some .datetime
  else
    match text with
    | '0' :: 'x' :: digits => radixInteger? 16 digits
    | '0' :: 'o' :: digits => radixInteger? 8 digits
    | '0' :: 'b' :: digits => radixInteger? 2 digits
    | _ =>
        let (sign, unsigned) := splitSign text
        let negative := sign == some true
        match wholeInteger? negative unsigned with
        | some value => some value
        | none => (float? unsigned).map (.float negative)

end TopicSieve.Toml
