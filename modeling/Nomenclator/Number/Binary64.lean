import Nomenclator.Text.Basic

/-!
# Binary64

Double-precision numbers as exact data: a finite one is its significand times a power of two, so
rounding, comparison and printing are integer arithmetic.
-/

namespace Nomenclator

/-- A finite number is `± significand * 2 ^ exponent`. The functions below keep `significand` under
`2 ^ 53` and `exponent` at least `-1074`, with the smaller exponent left to subnormal numbers. -/
inductive Binary64 where
  | nan
  | infinity (negative : Bool)
  | finite (negative : Bool) (significand : Nat) (exponent : Int)
deriving DecidableEq, Repr, Inhabited

/-- A positive ratio `num / den` brought to the scale `2 ^ exponent`. -/
def scaleByTwo (num den : Nat) (exponent : Int) : Nat × Nat :=
  if 0 ≤ exponent then (num, den * Nat.pow 2 exponent.toNat)
  else (num * Nat.pow 2 (-exponent).toNat, den)

/-- A positive ratio `num / den` brought to the scale `10 ^ exponent`. -/
def scaleByTen (num den : Nat) (exponent : Int) : Nat × Nat :=
  if 0 ≤ exponent then (num, den * Nat.pow 10 exponent.toNat)
  else (num * Nat.pow 10 (-exponent).toNat, den)

/-- The integer nearest to `num / den`; a tie goes to the even neighbour. -/
def roundDiv (num den : Nat) : Nat :=
  let q := num / den
  let twice := 2 * (num % den)
  if twice < den then q else if den < twice then q + 1 else q + q % 2

namespace Binary64

def zero (negative : Bool) : Binary64 := .finite negative 0 (-1074)

/-- The smallest significand of a number that is not subnormal, `2 ^ 52`. -/
def smallestNormal : Nat := Nat.pow 2 52

def one : Binary64 := .finite false smallestNormal (-52)

def minExponent : Int := -1074

def maxExponent : Int := 971

/-- The double nearest to `± num / den`; a tie goes to the even significand. -/
def ofRatio (negative : Bool) (num den : Nat) : Binary64 :=
  if num = 0 then zero negative
  else
    let guess : Int := (num.log2 : Int) - den.log2 - 52
    let (a, b) := scaleByTwo num den guess
    let exponent := max minExponent (if a / b < smallestNormal then guess - 1 else guess)
    let (a, b) := scaleByTwo num den exponent
    let m := roundDiv a b
    let (m, exponent) :=
      if m = 2 * smallestNormal then (smallestNormal, exponent + 1) else (m, exponent)
    if maxExponent < exponent then .infinity negative else .finite negative m exponent

/-- The double nearest to `± digits * 10 ^ exponent`. Far beyond the range the answer is infinity or
zero without computing the power. -/
def ofDecimal (negative : Bool) (digits : Nat) (exponent : Int) : Binary64 :=
  if digits = 0 then zero negative
  else
    let size : Int := (Nat.toDigits 10 digits).length
    if 400 < size + exponent then .infinity negative
    else if size + exponent < -400 then zero negative
    else
      let (num, den) := scaleByTen digits 1 (-exponent)
      ofRatio negative num den

/-- The nearest double of an integer, unless that is out of range. -/
def ofInt? (n : Int) : Option Binary64 :=
  match ofRatio (n < 0) n.natAbs 1 with
  | .infinity _ => none
  | x => some x

def ofNat (n : Nat) : Binary64 := ofRatio false n 1

/-- Is the number known to be zero or below? NaN compares to nothing. -/
def atMostZero : Binary64 → Bool
  | .nan => false
  | .infinity negative => negative
  | .finite negative m _ => negative || m == 0

def isZero : Binary64 → Bool
  | .finite _ 0 _ => true
  | _ => false

end Binary64

end Nomenclator
