/-!
# Floating-point numbers

A double-precision number as the exact value it stands for. Numbers with a fraction or an
exponent occur in requests and settings; what is done with them is reading them, multiplying and
dividing them by whole numbers, and rounding them to whole numbers.

## Main definitions

* `Real64`: not a number, an infinity, or a significand times a power of two.
* `Real64.ofDecimal`: the double nearest to a decimal number.
* `Real64.scaled`: a number multiplied by a quotient.
* `Real64.truncate?`, `Real64.ceiling?`, `Real64.awayFromZero?`: a number rounded to an integer.
-/

namespace Monocycle

/-- **Double-precision number.** -/
inductive Real64 where
  | notANumber
  | infinite (negative : Bool)
  /-- The number `significand * 2 ^ exponent`. -/
  | finite (significand exponent : Int)
  deriving DecidableEq, Repr

namespace Real64

/-- The number of bits of a significand. -/
def precision : Nat := 53

/-- The least exponent of a significand. -/
def leastExponent : Int := -1074

/-- The greatest exponent of a significand. -/
def greatestExponent : Int := 971

/-- A quotient rounded to the nearest integer, a half going to the even neighbour. -/
def roundQuotient (num den : Nat) : Nat :=
  let q := num / den
  let twice := 2 * (num % den)
  if twice < den then q
  else if twice > den then q + 1
  else q + q % 2

/-- The exponent that gives a positive quotient a significand of `precision` bits, or the least
exponent if that would be lower. -/
def exponentFor (num den : Nat) : Int :=
  let guess : Int := (num.log2 : Int) - (den.log2 : Int) - precision
  -- the quotient lies between `2 ^ (precision - 1)` and `2 ^ (precision + 1)` on this grid
  let scaledNum := num <<< (-guess).toNat
  let scaledDen := den <<< guess.toNat
  let exact := if scaledNum < scaledDen <<< precision then guess else guess + 1
  max exact leastExponent

/-- The double nearest to a quotient, a tie going to the even significand. A quotient beyond the
greatest double is infinite. -/
def ofQuotient (negative : Bool) (num den : Nat) : Real64 :=
  if num = 0 then finite 0 0
  else
    let e := exponentFor num den
    let rounded := roundQuotient (num <<< (-e).toNat) (den <<< e.toNat)
    let (significand, e) :=
      if rounded = 1 <<< precision then (1 <<< (precision - 1), e + 1) else (rounded, e)
    if e > greatestExponent then infinite negative
    else finite (if negative then -(significand : Int) else significand) e

/-- **Nearest double** to the decimal number `digits * 10 ^ exponent`, where `count` is at least
the number of decimal digits of `digits`. Exponents far outside the range of doubles are settled
without forming the power. -/
def ofDecimal (negative : Bool) (digits count : Nat) (exponent : Int) : Real64 :=
  if digits = 0 then finite 0 0
  else if exponent > 310 then infinite negative
  else if exponent + count < -330 then finite 0 0
  else ofQuotient negative (digits * Nat.pow 10 exponent.toNat) (Nat.pow 10 (-exponent).toNat)

/-- The double nearest to a number times a quotient. -/
def scaled (num den : Nat) : Real64 → Real64
  | notANumber => notANumber
  | infinite negative => infinite negative
  | finite significand exponent =>
    ofQuotient (significand < 0) ((significand.natAbs * num) <<< exponent.toNat)
      (den <<< (-exponent).toNat)

/-- **Integer part** of a finite number, rounded towards zero. -/
def truncate? : Real64 → Option Int
  | notANumber | infinite _ => none
  | finite significand exponent =>
    some ((significand <<< exponent.toNat).tdiv (1 <<< (-exponent).toNat))

/-- The least integer that is not below a finite number. -/
def ceiling? : Real64 → Option Int
  | notANumber | infinite _ => none
  | finite significand exponent =>
    some (-((-(significand <<< exponent.toNat)) >>> (-exponent).toNat))

/-- A finite number rounded to an integer away from zero. -/
def awayFromZero? : Real64 → Option Int
  | notANumber => none
  | infinite _ => none
  | finite significand exponent =>
    (finite significand.natAbs exponent).ceiling?.map (significand.sign * ·)

/-- Whether a number is zero. -/
def isZero : Real64 → Bool
  | finite significand _ => significand == 0
  | notANumber | infinite _ => false

end Real64

end Monocycle
