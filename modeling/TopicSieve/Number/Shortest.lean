import TopicSieve.Number.Binary64
import TopicSieve.Text.Basic

/-!
The shortest decimal that reads back as a given floating-point number, and the two ways in which
diagnostics write it.
-/

namespace TopicSieve

structure Decimal where
  digits : Nat
  exponent : Int
deriving Repr, DecidableEq

namespace Binary64

def bounds (number : Binary64) : Nat × Nat × Bool :=
  let center := 4 * number.mantissa
  let low :=
    if number.mantissa = twoTo 52 ∧ leastExponent < number.exponent then center - 1 else center - 2
  (low, center + 2, number.mantissa % 2 = 0)

/-- A comparison of `left * 2 ^ (exponent - 2)` with `right * 10 ^ power`, both as natural numbers
over a common denominator. -/
def onGrid (left : Nat) (exponent : Int) (right : Nat) (power : Int) : Nat × Nat :=
  let (left, unit) := scale left 1 (exponent - 2)
  match power with
  | .ofNat power => (left, right * tenTo power * unit)
  | .negSucc power => (left * tenTo (power + 1), right * unit)

def onGrid? (number : Binary64) (power : Int) : Option Nat :=
  let (low, high, included) := number.bounds
  let inside (digits : Nat) : Bool :=
    let (scaledLow, pointLow) := onGrid low number.exponent digits power
    let (scaledHigh, pointHigh) := onGrid high number.exponent digits power
    digits ≠ 0 && (if included then scaledLow ≤ pointLow && pointHigh ≤ scaledHigh
      else scaledLow < pointLow && pointHigh < scaledHigh)
  let (value, unit) := onGrid (4 * number.mantissa) number.exponent 1 power
  let below := value / unit
  match inside below, inside (below + 1) with
  | true, true =>
      let remainder := value % unit
      if 2 * remainder < unit then some below
      else if unit < 2 * remainder then some (below + 1)
      else some (below + below % 2)
  | true, false => some below
  | false, true => some (below + 1)
  | false, false => none

def shortestFrom (number : Binary64) (power : Int) : Nat → Decimal
  | 0 => ⟨0, 0⟩
  | tries + 1 =>
      match number.onGrid? power with
      | some digits => ⟨digits, power⟩
      | none => shortestFrom number (power - 1) tries

def shortest (number : Binary64) : Decimal :=
  if number.isZero then ⟨0, 0⟩
  else
    let (numerator, denominator) := number.toQuotient
    let power : Int :=
      (Text.ofNat numerator).length - (Text.ofNat denominator).length + (1 : Int)
    shortestFrom number power 20

end Binary64

namespace Decimal

def normalizedFrom : Nat → Nat → Int → Decimal
  | 0, digits, exponent => ⟨digits, exponent⟩
  | steps + 1, digits, exponent =>
      if digits ≠ 0 ∧ digits % 10 = 0 then normalizedFrom steps (digits / 10) (exponent + 1)
      else ⟨digits, exponent⟩

def normalized (decimal : Decimal) : Decimal :=
  normalizedFrom decimal.digits decimal.digits decimal.exponent

def positional (decimal : Decimal) : Text :=
  match decimal.exponent with
  | .ofNat power => Text.ofNat (decimal.digits * tenTo power) ++ ".0"
  | .negSucc power =>
      let places := power + 1
      let digits := Text.padded (places + 1) decimal.digits
      digits.take (digits.length - places) ++ "." ++ digits.drop (digits.length - places)

def scientific (decimal : Decimal) : Text :=
  let digits := Text.ofNat decimal.digits
  let exponent := decimal.exponent + (digits.length - 1)
  let fraction := digits.drop 1
  digits.take 1 ++ (if fraction.isEmpty then [] else '.' :: fraction) ++ "e" ++
    (if exponent < 0 then "-" else "+") ++ Text.padded 2 exponent.natAbs

def general (decimal : Decimal) : Text :=
  let leading := decimal.exponent + ((Text.ofNat decimal.digits).length - 1)
  if decimal.digits = 0 ∨ (-5 ≤ leading ∧ leading ≤ 15) then decimal.positional
  else decimal.scientific

end Decimal

end TopicSieve
