import TopicSieve.Json.Fault

/-!
Numbers of JSON texts. A significand is kept in 64 bits: digits beyond that only move the decimal
point, and the number becomes a floating-point one. The power of ten is then applied by one rounded
multiplication or division.
-/

namespace TopicSieve.Json

def maxSignificand : Nat := twoTo 64 - 1

def maxExponent : Nat := twoTo 31 - 1

/-- Appends digits to a number as long as it stays within a bound. The digits that did not fit are
left over. -/
def absorb (bound : Nat) : Nat → Text → Nat × Text
  | value, [] => (value, [])
  | value, digit :: rest =>
      let next := value * 10 + (Text.digitValue? digit).getD 0
      if bound < next then (value, digit :: rest) else absorb bound next rest

def maxPower : Nat := 308

/-- Applies a power of ten to a number, in steps of at most `maxPower`. Three steps are enough to
bring every significand to zero. -/
def applyPower : Nat → Binary64 → Int → Option Binary64
  | 0, _, _ => some .zero
  | steps + 1, value, exponent =>
      if exponent.natAbs ≤ maxPower then do
        let power ← Binary64.ofDecimal? 1 exponent.natAbs
        if 0 ≤ exponent then value.mul? power else value.div? power
      else if value.isZero then some value
      else if 0 ≤ exponent then none
      else do
        let power ← Binary64.ofDecimal? 1 maxPower
        let smaller ← value.div? power
        applyPower steps smaller (exponent + maxPower)

def floatAt (cursor : Cursor) (negative : Bool) (significand : Nat) (exponent : Int) :
    Except Stop (JsonNumber × Cursor) :=
  match (Binary64.ofNat? significand).bind fun value => applyPower 4 value exponent with
  | some magnitude => .ok (.float negative magnitude, cursor)
  | none => stopAt cursor .numberOutOfRange

def readExponent (negative : Bool) (significand : Nat) (exponent : Int) (cursor : Cursor) :
    Except Stop (JsonNumber × Cursor) :=
  let afterLetter := cursor.drop 1
  let signed := afterLetter.peek? == some '+' || afterLetter.peek? == some '-'
  let upward := afterLetter.peek? != some '-'
  let start := if signed then afterLetter.drop 1 else afterLetter
  match start.peek? with
  | none => stopAt start .endInValue
  | some first =>
      if Text.isDigit first then
        let (digits, final) := start.takeWhile Text.isDigit
        let (power, excess) := absorb maxExponent 0 digits
        if excess.isEmpty then
          floatAt final negative significand (if upward then exponent + power else exponent - power)
        else if significand ≠ 0 ∧ upward then
          stopAt (start.drop (digits.length - excess.length)) .numberOutOfRange
        else .ok (.float negative .zero, final)
      else stopAhead start .invalidNumber

def readScale (negative : Bool) (significand : Nat) (exponent : Int) (cursor : Cursor) :
    Except Stop (JsonNumber × Cursor) :=
  if cursor.peek? = some 'e' ∨ cursor.peek? = some 'E' then
    readExponent negative significand exponent cursor
  else floatAt cursor negative significand exponent

def readFraction (negative : Bool) (significand : Nat) (exponent : Int) (cursor : Cursor) :
    Except Stop (JsonNumber × Cursor) :=
  let (digits, final) := (cursor.drop 1).takeWhile Text.isDigit
  if digits.isEmpty then
    stopAhead final (if final.rest.isEmpty then .endInValue else .invalidNumber)
  else
    let (significand, excess) := absorb maxSignificand significand digits
    readScale negative significand (exponent - (digits.length - excess.length : Nat)) final

/-- The value of a number without fraction and exponent. Minus zero, and numbers below the least
64-bit integer, are floating-point numbers. -/
def integerAt (cursor : Cursor) (negative : Bool) (significand : Nat) :
    Except Stop (JsonNumber × Cursor) :=
  if !negative then .ok (.integer significand, cursor)
  else if significand = 0 ∨ twoTo 63 < significand then floatAt cursor true significand 0
  else .ok (.integer (-significand), cursor)

def readUnsigned (negative : Bool) (cursor : Cursor) : Except Stop (JsonNumber × Cursor) :=
  match cursor.peek? with
  | none => stopAt cursor .endInValue
  | some first =>
      if !Text.isDigit first then stopAhead cursor .invalidNumber
      else
        let (digits, final) := cursor.takeWhile Text.isDigit
        if first = '0' ∧ 1 < digits.length then stopAhead (cursor.drop 1) .invalidNumber
        else
          let (significand, excess) := absorb maxSignificand 0 digits
          if final.peek? = some '.' then readFraction negative significand excess.length final
          else if final.peek? = some 'e' ∨ final.peek? = some 'E' then
            readExponent negative significand excess.length final
          else if excess.isEmpty then integerAt final negative significand
          else floatAt final negative significand excess.length

def readNumber (cursor : Cursor) : Except Stop (JsonNumber × Cursor) :=
  if cursor.peek? = some '-' then readUnsigned true (cursor.drop 1) else readUnsigned false cursor

def skipExponent (cursor : Cursor) : Except Stop Cursor :=
  let afterLetter := cursor.drop 1
  let signed := afterLetter.peek? == some '+' || afterLetter.peek? == some '-'
  let start := if signed then afterLetter.drop 1 else afterLetter
  let (digits, final) := start.takeWhile Text.isDigit
  if digits.isEmpty then stopAhead start .invalidNumber else .ok final

def skipFraction (cursor : Cursor) : Except Stop Cursor :=
  if cursor.peek? = some '.' then
    let (digits, final) := (cursor.drop 1).takeWhile Text.isDigit
    if digits.isEmpty then stopAhead final .invalidNumber
    else if final.peek? = some 'e' ∨ final.peek? = some 'E' then skipExponent final
    else .ok final
  else if cursor.peek? = some 'e' ∨ cursor.peek? = some 'E' then skipExponent cursor
  else .ok cursor

def skipNumber (cursor : Cursor) : Except Stop Cursor :=
  let start := if cursor.peek? = some '-' then cursor.drop 1 else cursor
  let (digits, final) := start.takeWhile Text.isDigit
  if digits.isEmpty then stopAhead start .invalidNumber
  else if start.peek? = some '0' ∧ 1 < digits.length then stopAhead (start.drop 1) .invalidNumber
  else skipFraction final

end TopicSieve.Json
