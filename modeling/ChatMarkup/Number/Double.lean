/-!
# Binary floating-point numbers

Numbers with 53 significant bits, as data files write them. A finite number is a significand times
a power of two, in one form only: the significand uses all 53 bits, save near zero, where the
exponent has its least value. Reading a decimal rounds it to the nearest such number, and to the
one with the even significand when two are equally near. All arithmetic is exact.
-/
namespace ChatMarkup

/-- A binary number of 53 significant bits, an infinity, or the value that is no number. -/
inductive Double where
  | finite (negative : Bool) (significand : Nat) (exponent : Int)
  | infinity (negative : Bool)
  | nan
deriving DecidableEq, Repr, Inhabited

namespace Double

def twoTo (n : Nat) : Nat := Nat.pow 2 n

def tenTo (n : Nat) : Nat := Nat.pow 10 n

def minExponent : Int := -1074

def maxExponent : Int := 971

def zero (negative : Bool) : Double := .finite negative 0 minExponent

/-- The natural number nearest to a quotient; of two, the even one. -/
def roundDiv (num den : Nat) : Nat :=
  let q := num / den
  let r := num % den
  if den < 2 * r then q + 1
  else if 2 * r == den && q % 2 == 1 then q + 1
  else q

/-- A fraction divided by a power of two, as a fraction. -/
def scaleDown (num den : Nat) (e : Int) : Nat × Nat :=
  if 0 ≤ e then (num, den * twoTo e.toNat) else (num * twoTo (-e).toNat, den)

/-- The exponent at which a positive fraction has 53 bits before its point. -/
def exponentOf (num den : Nat) : Int :=
  let guess : Int := (Nat.log2 num : Int) - Nat.log2 den - 52
  -- the guess is exact or one too high
  let scaled := scaleDown num den guess
  if scaled.1 < scaled.2 * twoTo 52 then guess - 1 else guess

/-- A rounded significand at an exponent. Rounding may have carried into one more bit. -/
def settle (negative : Bool) (m : Nat) (e : Int) : Double :=
  if m == twoTo 53 then
    if maxExponent < e + 1 then .infinity negative else .finite negative (twoTo 52) (e + 1)
  else if maxExponent < e then .infinity negative
  else .finite negative m e

/-- The number nearest to a positive fraction. -/
def ofFraction (negative : Bool) (num den : Nat) : Double :=
  let e := max (exponentOf num den) minExponent
  let scaled := scaleDown num den e
  settle negative (roundDiv scaled.1 scaled.2) e

/-- The number nearest to `digits` times a power of ten. Powers far outside the range are decided
without computing them. -/
def ofDecimal (negative : Bool) (digits : Nat) (tens : Int) : Double :=
  if digits == 0 then zero negative
  else
    let size : Int := Nat.log2 digits / 3
    if 400 < tens then .infinity negative
    else if tens + size + 1 < -400 then zero negative
    else if 0 ≤ tens then ofFraction negative (digits * tenTo tens.toNat) 1
    else ofFraction negative digits (tenTo (-tens).toNat)

def ofInt (n : Int) : Double := ofDecimal (n < 0) n.natAbs 0

/-- The integer that is left when the fraction of a finite number is cut off. -/
def truncate? : Double → Option Int
  | .finite negative m e =>
    let size : Int := if 0 ≤ e then m * twoTo e.toNat else m / twoTo (-e).toNat
    some (if negative then -size else size)
  | _ => none

def isInfinite : Double → Bool
  | .infinity _ => true
  | _ => false

def isZero : Double → Bool
  | .finite _ m _ => m == 0
  | _ => false

/-- The order of two numbers: `none` if one of them is no number. -/
def le? : Double → Double → Option Bool
  | .nan, _ => none
  | _, .nan => none
  | .infinity true, _ => some true
  | _, .infinity false => some true
  | .infinity false, _ => some false
  | _, .infinity true => some false
  | .finite s m e, .finite t n f =>
    let low := min e f
    let a : Int := m * twoTo (e - low).toNat
    let b : Int := n * twoTo (f - low).toNat
    some ((if s then -a else a) ≤ (if t then -b else b))

end Double

end ChatMarkup
