import TopicSieve.Number.Power

/-!
Non-negative binary floating-point numbers with 53 significant bits, in exact arithmetic on natural
numbers. Every operation rounds the exact result to the nearest number, and a tie to the even one.
-/

namespace TopicSieve

/-- The number `mantissa * 2 ^ exponent`. -/
structure Binary64 where
  mantissa : Nat
  exponent : Int
deriving Repr, DecidableEq

namespace Binary64

def zero : Binary64 := ⟨0, 0⟩

def isZero (number : Binary64) : Bool := number.mantissa == 0

def leastExponent : Int := -1074

def scale (numerator denominator : Nat) (power : Int) : Nat × Nat :=
  match power with
  | .ofNat power => (numerator * twoTo power, denominator)
  | .negSucc power => (numerator, denominator * twoTo (power + 1))

/-- The integer nearest to a quotient; a half goes to the even neighbour. -/
def nearest (numerator denominator : Nat) : Nat :=
  let quotient := numerator / denominator
  let remainder := numerator % denominator
  if 2 * remainder < denominator then quotient
  else if denominator < 2 * remainder then quotient + 1
  else quotient + quotient % 2

/-- Rounds a quotient to 53 bits at a given exponent. The result is missing where it would be too
large for a finite number. -/
def roundAt (numerator denominator : Nat) (exponent : Int) : Option Binary64 :=
  let (numerator, denominator) := scale numerator denominator (-exponent)
  let mantissa := nearest numerator denominator
  let rounded : Binary64 :=
    if mantissa = twoTo 53 then ⟨twoTo 52, exponent + 1⟩ else ⟨mantissa, exponent⟩
  if 971 < rounded.exponent then none else some rounded

def ofQuotient? (numerator denominator : Nat) : Option Binary64 :=
  if numerator = 0 then some zero
  else
    let guess : Int := (numerator.log2 : Int) - denominator.log2 - 53
    let (scaled, unit) := scale numerator denominator (-guess)
    let exponent := if scaled < twoTo 53 * unit then guess else guess + 1
    roundAt numerator denominator (max exponent leastExponent)

def toQuotient (number : Binary64) : Nat × Nat := scale number.mantissa 1 number.exponent

def ofNat? (number : Nat) : Option Binary64 := ofQuotient? number 1

def ofDecimal? (significand : Nat) (exponent : Int) : Option Binary64 :=
  match exponent with
  | .ofNat power => ofQuotient? (significand * tenTo power) 1
  | .negSucc power => ofQuotient? significand (tenTo (power + 1))

def mul? (left right : Binary64) : Option Binary64 :=
  let (leftNumerator, leftDenominator) := left.toQuotient
  let (rightNumerator, rightDenominator) := right.toQuotient
  ofQuotient? (leftNumerator * rightNumerator) (leftDenominator * rightDenominator)

def div? (left right : Binary64) : Option Binary64 :=
  let (leftNumerator, leftDenominator) := left.toQuotient
  let (rightNumerator, rightDenominator) := right.toQuotient
  if rightNumerator = 0 then none
  else ofQuotient? (leftNumerator * rightDenominator) (leftDenominator * rightNumerator)

end Binary64

end TopicSieve
