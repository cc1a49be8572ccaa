import Stencil.Decimal.Layout
import Stencil.Decimal.Numeral

/-!
# Floating-point arithmetic

A float is a finite binary number, an infinity, or none of these: the result of an operation that
has no value. Every operation gives the float nearest to the exact result.
-/

namespace Stencil.Decimal

/-- A finite number, an infinity with a sign, or no number. -/
inductive Extended where
  | finite (x : Binary64)
  | infinite (negative : Bool)
  | notANumber
  deriving DecidableEq

/-- The numerator with the sign. -/
def Binary64.signedNum (x : Binary64) : Int := if x.negative then -(x.num : Int) else x.num

namespace Extended

/-- The float nearest to `num / den`. -/
def ofRatio (negative : Bool) (num den : Nat) : Extended :=
  match Binary64.ofRatio negative num den with
  | some x => .finite x
  | none => .infinite negative

/-- The float nearest to a whole number. -/
def ofInt (n : Int) : Extended := ofRatio (n < 0) n.natAbs 1

/-- The float nearest to a numeral. -/
def ofNumeral (n : Numeral) : Extended :=
  match n.nearest? with
  | some x => .finite x
  | none => .infinite n.negative

/-- Is this zero? -/
def isZero : Extended → Bool
  | .finite x => x.mantissa == 0
  | _ => false

/-- Is the sign a minus? -/
def negative : Extended → Bool
  | .finite x => x.negative
  | .infinite negative => negative
  | .notANumber => false

/-- Changes the sign. -/
def neg : Extended → Extended
  | .finite x => .finite x.neg
  | .infinite negative => .infinite !negative
  | .notANumber => .notANumber

/-- The sum. -/
def add : Extended → Extended → Extended
  | .finite x, .finite y =>
    let n := x.signedNum * y.den + y.signedNum * x.den
    if n = 0 then .finite (.zero (x.negative && y.negative))
    else ofRatio (n < 0) n.natAbs (x.den * y.den)
  | .finite _, .infinite negative => .infinite negative
  | .infinite negative, .finite _ => .infinite negative
  | .infinite negative, .infinite other =>
    if negative = other then .infinite negative else .notANumber
  | _, _ => .notANumber

/-- The difference. -/
def sub (x y : Extended) : Extended := x.add y.neg

/-- The product. -/
def mul (x y : Extended) : Extended :=
  let negative := x.negative != y.negative
  match x, y with
  | .finite x, .finite y => ofRatio negative (x.num * y.num) (x.den * y.den)
  | .notANumber, _ => .notANumber
  | _, .notANumber => .notANumber
  | x, y => if x.isZero || y.isZero then .notANumber else .infinite negative

/-- The quotient. A number divided by zero is infinite. -/
def div (x y : Extended) : Extended :=
  let negative := x.negative != y.negative
  match x, y with
  | .finite x, .finite y =>
    if y.mantissa ≠ 0 then ofRatio negative (x.num * y.den) (x.den * y.num)
    else if x.mantissa ≠ 0 then .infinite negative
    else .notANumber
  | .finite _, .infinite _ => .finite (.zero negative)
  | .infinite _, .finite _ => .infinite negative
  | _, _ => .notANumber

/-- The remainder of a division toward zero; it has the sign of the dividend. -/
def rem : Extended → Extended → Extended
  | .finite x, .finite y =>
    if y.mantissa = 0 then .notANumber
    else ofRatio x.negative (x.num * y.den % (y.num * x.den)) (x.den * y.den)
  | .finite x, .infinite _ => .finite x
  | _, _ => .notANumber

/-- The whole part. -/
def truncate : Extended → Extended
  | .finite x => ofRatio x.negative (x.num / x.den) 1
  | x => x

/-- The whole quotient of a division whose remainder is not negative. -/
def divWhole (x y : Extended) : Extended :=
  let q := (x.div y).truncate
  let r := x.rem y
  if r.negative && !r.isZero then
    if y.negative then q.add (ofInt 1) else q.sub (ofInt 1)
  else q

/-- The whole number that this is, if it is one. -/
def whole? : Extended → Option Int
  | .finite x => if x.num % x.den = 0 then some (x.signedNum / x.den) else none
  | _ => none

/-- The float in a layout. -/
def write (l : Layout) : Extended → Text
  | .finite x => l.write x
  | .infinite false => "inf".toList
  | .infinite true => "-inf".toList
  | .notANumber => "NaN".toList

end Extended

end Stencil.Decimal
