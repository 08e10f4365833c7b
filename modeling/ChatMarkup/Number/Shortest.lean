import ChatMarkup.Number.Double

/-!
# Shortest decimal text

A finite number is written with the fewest digits that read back as the same number, and among
those with the digits nearest to it. Numbers from 0.0001 up to, but not including, ten to the
sixteenth are written positionally, with at least one digit after the point; others carry an
exponent of at least two digits.
-/
namespace ChatMarkup.Double

/-- A positive number and the ends of the interval that rounds to it, over one denominator, with
the question whether the ends belong to the interval. -/
structure Neighbourhood where
  low : Nat
  value : Nat
  high : Nat
  den : Nat
  closed : Bool
deriving DecidableEq, Repr

/-- The neighbourhood of a finite number. Below a power of two the numbers lie twice as dense. -/
def neighbourhood (m : Nat) (e : Int) : Neighbourhood :=
  let below := if m == twoTo 52 && minExponent < e then 1 else 2
  let up := if 0 ≤ e then twoTo e.toNat else 1
  let down := if 0 ≤ e then 1 else twoTo (-e).toNat
  { low := (4 * m - below) * up
    value := 4 * m * up
    high := (4 * m + 2) * up
    den := 4 * down
    closed := m % 2 == 0 }

def Neighbourhood.holds (a : Neighbourhood) (num den : Nat) : Bool :=
  if a.closed then a.low * den ≤ num * a.den && num * a.den ≤ a.high * den
  else a.low * den < num * a.den && num * a.den < a.high * den

def tenPower (e : Int) : Nat × Nat :=
  if 0 ≤ e then (tenTo e.toNat, 1) else (1, tenTo (-e).toNat)

/-- The value is at least ten to the given power. -/
def Neighbourhood.reaches (a : Neighbourhood) (e : Int) : Bool :=
  let (n, d) := tenPower e
  n * a.den ≤ a.value * d

/-- The power of ten of the first digit, found from a guess that is at most `fuel` too low. -/
def Neighbourhood.magnitude (a : Neighbourhood) : Nat → Int → Int
  | 0, e => e
  | fuel + 1, e => if a.reaches (e + 1) then a.magnitude fuel (e + 1) else e

/-- The multiple of ten to the power `e` that is nearest to the value among those in the
neighbourhood. -/
def Neighbourhood.onGrid? (a : Neighbourhood) (e : Int) : Option Nat :=
  let (n, d) := tenPower e
  let k := a.value * d / (a.den * n)
  let lower := a.holds (k * n) d
  let upper := a.holds ((k + 1) * n) d
  if lower && upper then
    -- twice the distance of the lower point against the distance of both
    let twice := 2 * (a.value * d - k * n * a.den)
    if twice < n * a.den || (twice == n * a.den && k % 2 == 0) then some k else some (k + 1)
  else if lower then some k
  else if upper then some (k + 1)
  else none

/-- The first of the ever finer grids with a point in the neighbourhood: the point and the power
of ten of its last digit. -/
def Neighbourhood.firstGrid (a : Neighbourhood) : Nat → Int → Nat × Int
  | 0, e => (a.value * (tenPower e).2 / (a.den * (tenPower e).1), e)
  | fuel + 1, e => match a.onGrid? e with
    | some k => (k, e)
    | none => a.firstGrid fuel (e - 1)

/-- The shortest digits of a positive number and the power of ten of the last of them. -/
def shortest (m : Nat) (e : Int) : Nat × Int :=
  let a := neighbourhood m e
  -- one bit is 0.30103 of a decimal digit; the guess is at most a few too low
  let bits : Int := (Nat.log2 m : Int) + e
  let guess := Int.fdiv (bits * 30103) 100000 - 1
  a.firstGrid 17 (a.magnitude 4 guess)

/-- The digits without zeros at the end, and the power of ten of the last digit kept. -/
def dropZeros : Nat → Nat → Int → Nat × Int
  | 0, k, e => (k, e)
  | fuel + 1, k, e => if k % 10 == 0 && k != 0 then dropZeros fuel (k / 10) (e + 1) else (k, e)

/-- Digits with a point or an exponent: `last` is the power of ten of the last digit. -/
def layOut (digits : List Char) (last : Int) : List Char :=
  let count : Int := digits.length
  let first := last + count - 1
  if -4 ≤ first && first < 16 then
    if 0 ≤ last then digits ++ List.replicate last.toNat '0' ++ ".0".toList
    else if 0 ≤ first then
      let whole := (first + 1).toNat
      digits.take whole ++ ['.'] ++ digits.drop whole
    else "0.".toList ++ List.replicate (-first - 1).toNat '0' ++ digits
  else
    let mantissa := match digits with
      | [] => []
      | [d] => [d]
      | d :: more => d :: '.' :: more
    let size := Nat.toDigits 10 first.natAbs
    let padded := if size.length < 2 then '0' :: size else size
    mantissa ++ ['e', if first < 0 then '-' else '+'] ++ padded

/-- The text of a number; infinities and the value that is no number have the given names. -/
def toText (infinite noNumber : String) : Double → String
  | .nan => noNumber
  | .infinity negative => (if negative then "-" else "") ++ infinite
  | .finite negative m e =>
    let body :=
      if m == 0 then "0.0".toList
      else
        let (k, last) := shortest m e
        let (k, last) := dropZeros 20 k last
        layOut (Nat.toDigits 10 k) last
    (if negative then "-" else "") ++ String.ofList body

end ChatMarkup.Double
