/-!
# Numbers

An integer is written in decimal digits, and one of more than 4300 digits is neither read nor
written.

A finite number in double precision is a significand times a power of two, with 53 bits for the
significand and no exponent below -1074. A decimal is read as the nearest such number, a tie going
to the even significand; what lies beyond the largest one is infinite. All of it is exact integer
arithmetic.
-/

namespace PrefixLint.Number

def digitLimit : Nat := 4300

def decimal? (n : Int) : Option String :=
  let digits := Nat.repr n.natAbs
  if digitLimit < digits.length then none else some (if n < 0 then "-" ++ digits else digits)

/-- A number in double precision. A finite one is `significand * 2 ^ exponent`, with a significand
of full width unless the exponent is the least. -/
inductive Binary64 where
  | nan
  | infinite (negative : Bool)
  | finite (negative : Bool) (significand : Nat) (exponent : Int)
  deriving DecidableEq, Repr

def roundDiv (num den : Nat) : Nat :=
  let whole := num / den
  let twice := 2 * (num % den)
  if den < twice || (twice = den && whole % 2 = 1) then whole + 1 else whole

namespace Binary64

def fullWidth : Nat := 0x20000000000000

def leastExponent : Int := -1074

def greatestExponent : Int := 971

def zero (negative : Bool) : Binary64 := finite negative 0 leastExponent

def inUnits (num den : Nat) (exponent : Int) : Nat × Nat :=
  (num * Nat.pow 2 (-exponent).toNat, den * Nat.pow 2 exponent.toNat)

def exponentOf (num den : Nat) : Int :=
  let guess := max ((num.log2 : Int) - den.log2 - 52) leastExponent
  let (n, d) := inUnits num den guess
  if n / d < fullWidth / 2 then max (guess - 1) leastExponent else guess

def ofQuotient (negative : Bool) (num den : Nat) : Binary64 :=
  let exponent := exponentOf num den
  let (n, d) := inUnits num den exponent
  let rounded := roundDiv n d
  let (significand, exponent) :=
    if rounded = fullWidth then (fullWidth / 2, exponent + 1) else (rounded, exponent)
  if greatestExponent < exponent then infinite negative else finite negative significand exponent

/-- The number nearest to `digits * 10 ^ exponent`. Far outside the range the answer needs no
arithmetic. -/
def ofDecimal (negative : Bool) (digits : Nat) (exponent : Int) : Binary64 :=
  let size : Int := (Nat.toDigits 10 digits).length + exponent
  if digits = 0 || size < -400 then zero negative
  else if 400 < size then infinite negative
  else ofQuotient negative (digits * Nat.pow 10 exponent.toNat) (Nat.pow 10 (-exponent).toNat)

end Binary64

end PrefixLint.Number
