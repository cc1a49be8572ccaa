import Stencil.Decimal.Binary64

/-!
# Shortest decimals

`Binary64.shortest` selects the decimal with the fewest digits that reads back as a given number,
and of those the nearest. The numbers that read back as `m * 2 ^ q` lie between the midpoints to its
two neighbours, the midpoints included when `m` is even; below a power of two the neighbour is half
as far away as above. A decimal is compared with the midpoints in naturals, by multiplying out.
-/

namespace Stencil.Decimal

/-- The decimal `digits * 10 ^ exponent`, a short form of a number. -/
structure Short where
  digits : Nat
  exponent : Int
  deriving DecidableEq

/-- Where two decimals are equally near: to the one with the even last digit, or to the larger. -/
inductive Tie where
  | toEven
  | up
  deriving DecidableEq

/-- Compares `a * 10 ^ i` with `n * 2 ^ j`. -/
def compareScaled (a : Nat) (i : Int) (n : Nat) (j : Int) : Ordering :=
  compare (a * tenTo i.toNat * twoTo (-j).toNat) (n * twoTo j.toNat * tenTo (-i).toNat)

namespace Binary64

/-- Is the neighbour below nearer than the neighbour above? -/
def isNarrowBelow (x : Binary64) : Bool :=
  x.mantissa == twoTo 52 && leastExponent < x.exponent

/-- Does the decimal read back as the absolute value of `x`? -/
def readsBack (x : Binary64) (d : Short) : Bool :=
  let low := if x.isNarrowBelow then 4 * x.mantissa - 1 else 4 * x.mantissa - 2
  let high := 4 * x.mantissa + 2
  let withEnds := x.mantissa % 2 == 0
  let toLow := compareScaled d.digits d.exponent low (x.exponent - 2)
  let toHigh := compareScaled d.digits d.exponent high (x.exponent - 2)
  (toLow == .gt || (withEnds && toLow == .eq)) && (toHigh == .lt || (withEnds && toHigh == .eq))

/-- The least `k` with `x < 10 ^ k`, found next to an estimate from the power of two. -/
def decimalScale (x : Binary64) : Int :=
  let estimate := (((x.mantissa.log2 : Int) + x.exponent) * 30103).fdiv 100000
  let below (k : Int) : Bool := compareScaled 1 k x.mantissa x.exponent == .gt
  if below (estimate - 1) then estimate - 1
  else if below estimate then estimate
  else if below (estimate + 1) then estimate + 1
  else estimate + 2

/-- The nearest decimal with `n` digits that reads back as `x`, if there is one: one of the two
neighbours of `x` on the grid of these decimals. -/
def onGrid? (tie : Tie) (x : Binary64) (scale : Int) (n : Nat) : Option Short :=
  let e := scale - n
  let num := x.num * tenTo (-e).toNat
  let den := x.den * tenTo e.toNat
  let lower : Short := ⟨num / den, e⟩
  let upper : Short := ⟨num / den + 1, e⟩
  match x.readsBack lower, x.readsBack upper with
  | false, false => none
  | true, false => some lower
  | false, true => some upper
  | true, true =>
    match compare (2 * num) ((2 * lower.digits + 1) * den), tie with
    | .lt, _ => some lower
    | .gt, _ => some upper
    | .eq, .up => some upper
    | .eq, .toEven => some (if lower.digits % 2 = 0 then lower else upper)

/-- Drops the zeros at the end of a number's digits, `fuel` of them at most. -/
def dropZeros : Nat → Nat → Int → Short
  | 0, digits, e => ⟨digits, e⟩
  | fuel + 1, digits, e =>
    if digits ≠ 0 ∧ digits % 10 = 0 then dropZeros fuel (digits / 10) (e + 1) else ⟨digits, e⟩

/-- The shortest decimal for the absolute value of `x`. Seventeen digits are always enough. -/
def shortest (tie : Tie) (x : Binary64) : Short :=
  if x.mantissa = 0 then ⟨0, 0⟩
  else
    let scale := x.decimalScale
    match (List.range 17).findSome? fun n => x.onGrid? tie scale (n + 1) with
    | some d => dropZeros 17 d.digits d.exponent
    | none => ⟨0, 0⟩

end Binary64

end Stencil.Decimal
