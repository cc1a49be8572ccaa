/-!
# Binary floating-point numbers

A finite number of the 64-bit binary format, exactly: a sign, a mantissa below `2 ^ 53` and a power
of two. The mantissa is at least `2 ^ 52` unless the exponent is the least one, so that every number
has one form, except for the two zeros. `ofRatio` rounds a quotient of naturals to the nearest
number, a tie to the even mantissa; products and quotients are rounded so from their exact values.
-/

namespace Stencil.Decimal

/-- A power of two. -/
def twoTo (n : Nat) : Nat := Nat.pow 2 n

/-- A power of ten. -/
def tenTo (n : Nat) : Nat := Nat.pow 10 n

/-- The finite number `mantissa * 2 ^ exponent`, with a sign. -/
structure Binary64 where
  negative : Bool
  mantissa : Nat
  exponent : Int
  deriving DecidableEq

namespace Binary64

/-- The least exponent. -/
def leastExponent : Int := -1074

/-- The greatest exponent. -/
def greatestExponent : Int := 971

/-- Zero, with a sign. -/
def zero (negative : Bool) : Binary64 := ⟨negative, 0, leastExponent⟩

/-- The quotient `num / den`, rounded to an integer; a tie goes to the even neighbour. -/
def roundDiv (num den : Nat) : Nat :=
  let q := num / den
  match compare (2 * (num % den)) den with
  | .lt => q
  | .gt => q + 1
  | .eq => if q % 2 = 0 then q else q + 1

/-- The quotient `num / den / 2 ^ e` as a quotient of naturals. -/
def scaled (num den : Nat) (e : Int) : Nat × Nat :=
  (num * twoTo (-e).toNat, den * twoTo e.toNat)

/-- The number nearest to `num / den`, or nothing if that is too large for the format. -/
def ofRatio (negative : Bool) (num den : Nat) : Option Binary64 :=
  if num = 0 then some (zero negative)
  else
    let e := max ((num.log2 : Int) - den.log2 - 53) leastExponent
    let (n, d) := scaled num den e
    let e := if twoTo 53 ≤ n / d then e + 1 else e
    let (n, d) := scaled num den e
    let m := roundDiv n d
    let (m, e) := if m = twoTo 53 then (twoTo 52, e + 1) else (m, e)
    if greatestExponent < e then none else some ⟨negative, m, e⟩

/-- The numerator of the absolute value. -/
def num (x : Binary64) : Nat := x.mantissa * twoTo x.exponent.toNat

/-- The denominator of the absolute value. -/
def den (x : Binary64) : Nat := twoTo (-x.exponent).toNat

/-- Changes the sign. -/
def neg (x : Binary64) : Binary64 := { x with negative := !x.negative }

/-- The rounded product. -/
def mul (x y : Binary64) : Option Binary64 :=
  ofRatio (x.negative != y.negative) (x.num * y.num) (x.den * y.den)

/-- The rounded quotient; the divisor must not be zero. -/
def div (x y : Binary64) : Option Binary64 :=
  ofRatio (x.negative != y.negative) (x.num * y.den) (x.den * y.num)

/-- The number nearest to a power of ten. -/
def powerOfTen? (k : Nat) : Option Binary64 := ofRatio false (tenTo k) 1

/-- The greatest power of ten that the format holds. -/
def greatestPower : Nat := 308

/-- Multiplies by `10 ^ e`, rounding after each step: powers beyond the greatest one are divided out
first, until the number or the exponent is used up. Too large a result is none. -/
def scaleByTen (x : Binary64) (e : Int) : Option Binary64 :=
  if _small : e.natAbs ≤ greatestPower then do
    let p ← powerOfTen? e.natAbs
    if 0 ≤ e then x.mul p else x.div p
  else if x.mantissa = 0 then some x
  else if _positive : 0 ≤ e then none
  else do
    let p ← powerOfTen? greatestPower
    let y ← x.div p
    scaleByTen y (e + greatestPower)
termination_by e.natAbs
decreasing_by
  simp only [greatestPower] at _small ⊢
  omega

end Binary64

end Stencil.Decimal
