import Stencil.Decimal.Shortest
import Stencil.Text.Basic

/-!
# Layout of decimals

How a selected decimal is written. A `Layout` holds the decisions of one output format: which
numbers are written without an exponent, whether the exponent has a plus sign, and where a tie
between two shortest decimals goes. Numbers without an exponent always have a digit behind the
point; numbers with one have a point only before further digits.
-/

namespace Stencil.Decimal

/-- The decisions of an output format. The exponent in question is that of the first digit. -/
structure Layout where
  plainFrom : Int
  plainBelow : Int
  plusSign : Bool
  tie : Tie

namespace Layout

/-- The digits of a natural number. -/
def digits (n : Nat) : Text := Nat.toDigits 10 n

/-- A decimal without an exponent. -/
def plain (ds : Text) (first : Int) : Text :=
  if first < 0 then "0.".toList ++ List.replicate (-first - 1).toNat '0' ++ ds
  else
    let count := first.toNat + 1
    if ds.length ≤ count then ds ++ List.replicate (count - ds.length) '0' ++ ".0".toList
    else ds.take count ++ '.' :: ds.drop count

/-- A decimal with an exponent. -/
def scientific (l : Layout) (ds : Text) (first : Int) : Text :=
  let mantissa :=
    match ds with
    | [] => []
    | [d] => [d]
    | d :: more => d :: '.' :: more
  let sign := if first < 0 then ['-'] else if l.plusSign then ['+'] else []
  mantissa ++ 'e' :: sign ++ digits first.natAbs

/-- A number in this layout. -/
def write (l : Layout) (x : Binary64) : Text :=
  let d := x.shortest l.tie
  let ds := digits d.digits
  let first := d.exponent + ds.length - 1
  let sign := if x.negative then ['-'] else []
  sign ++
    if l.plainFrom ≤ first ∧ first < l.plainBelow then plain ds first
    else l.scientific ds first

end Layout

end Stencil.Decimal
