import Stencil.Decimal.Binary64
import Stencil.Text.Basic

/-!
# Written numbers

A numeral is a decimal number as it is written: a sign, digits, perhaps a point and an exponent.
There are two ways to give it a value.

* `Numeral.nearest?` is the binary number nearest to it.
* `Numeral.stepwise?` takes the digits into a 64-bit natural as long as they fit, rounds that, and
  multiplies by a power of ten, rounding again. A whole number that fits stays a whole number.
-/

namespace Stencil.Decimal

/-- A number is whole or binary floating-point. -/
inductive Number where
  | whole (n : Int)
  | float (x : Binary64)
  deriving DecidableEq

/-- Does a whole number fit so many bits, one of which is its sign? -/
def fitsSigned (bits : Nat) : Int → Bool
  | .ofNat n => n < twoTo (bits - 1)
  | .negSucc n => n < twoTo (bits - 1)

/-- Does a whole number fit so many bits, with or without a sign? -/
def fits (bits : Nat) : Int → Bool
  | .ofNat n => n < twoTo bits
  | .negSucc n => n < twoTo (bits - 1)

/-- The parts of a written number: digits before and, if there is a point, behind it, and the sign
and the digits of the exponent. -/
structure Numeral where
  negative : Bool
  whole : Text
  fraction : Option Text
  exponent : Option (Bool × Text)
  deriving DecidableEq

/-- The value of a text of digits. -/
def valueOf (digits : Text) : Nat := digits.foldl (fun n c => 10 * n + (c.toNat - '0'.toNat)) 0

/-- The longest run of digits at the front of a text, and what follows it. -/
def spanDigits (t : Text) : Text × Text := (t.takeWhile Char.isDigit, t.dropWhile Char.isDigit)

namespace Numeral

/-! ## Reading -/

/-- Reads an exponent if the text starts with its mark; then digits must follow. -/
def takeExponent? : Text → Option (Option (Bool × Text) × Text)
  | [] => some (none, [])
  | c :: t =>
    if c = 'e' ∨ c = 'E' then
      let (negative, t) :=
        match t with
        | '-' :: t => (true, t)
        | '+' :: t => (false, t)
        | t => (false, t)
      match spanDigits t with
      | ([], _) => none
      | (digits, t) => some (some (negative, digits), t)
    else some (none, c :: t)

/-- Reads a whole text as a numeral. A sign may stand in front, and digits may be missing on one
side of the point. -/
def ofText? (t : Text) : Option Numeral :=
  let (negative, t) :=
    match t with
    | '-' :: t => (true, t)
    | '+' :: t => (false, t)
    | t => (false, t)
  let (whole, t) := spanDigits t
  let (fraction, t) :=
    match t with
    | '.' :: t => (some (spanDigits t).1, (spanDigits t).2)
    | t => (none, t)
  if whole = [] ∧ fraction.getD [] = [] then none
  else
    match takeExponent? t with
    | some (exponent, []) => some ⟨negative, whole, fraction, exponent⟩
    | _ => none

/-! ## The nearest number -/

/-- The exponent as a number. -/
def exponentValue (n : Numeral) : Int :=
  match n.exponent with
  | none => 0
  | some (negative, digits) => if negative then -(valueOf digits : Int) else valueOf digits

/-- The binary number nearest to a numeral, or nothing if the numeral is too large. Numerals far
outside the range of the format are decided by their size alone. -/
def nearest? (n : Numeral) : Option Binary64 :=
  let fraction := n.fraction.getD []
  let digits := (n.whole ++ fraction).dropWhile (· == '0')
  let e := n.exponentValue - fraction.length
  if digits = [] then some (.zero n.negative)
  else if 310 < digits.length + e then none
  else if digits.length + e < -330 then some (.zero n.negative)
  else Binary64.ofRatio n.negative (valueOf digits * tenTo e.toNat) (tenTo (-e).toNat)

/-! ## The number in steps -/

/-- Takes digits as long as the value, which starts at `n`, stays below `2 ^ 64`. -/
def takeFitting (n : Nat) : Text → Nat × Text
  | [] => (n, [])
  | c :: t =>
    let next := 10 * n + (c.toNat - '0'.toNat)
    if next < twoTo 64 then takeFitting next t else (n, c :: t)

/-- A float that is a natural times a power of ten, each of the two steps rounded. -/
def floatInSteps? (negative : Bool) (n : Nat) (e : Int) : Option Number := do
  let x ← Binary64.ofRatio negative n 1
  let y ← x.scaleByTen e
  pure (.float y)

/-- The greatest exponent that is read; with a larger one only zero is a number. -/
def greatestWritten : Nat := twoTo 31 - 1

/-- The number of a numeral, read in steps. Digits that no longer fit count by their place if they
stand before the point, and do not count behind it. A whole number without point and exponent stays
whole if it fits 64 bits; minus zero is a float. -/
def stepwise? (n : Numeral) : Option Number :=
  let (significand, left) := takeFitting 0 n.whole
  match n.fraction, n.exponent with
  | none, none =>
    if left ≠ [] then floatInSteps? n.negative significand left.length
    else if !n.negative then some (.whole significand)
    else if significand = 0 ∨ twoTo 63 < significand then floatInSteps? true significand 0
    else some (.whole (-significand))
  | fraction, exponent =>
    let digits := fraction.getD []
    let (significand, unread) := takeFitting significand digits
    let e : Int := left.length - (digits.length - unread.length : Nat)
    match exponent with
    | none => floatInSteps? n.negative significand e
    | some (negative, written) =>
      if greatestWritten < valueOf written then
        if significand = 0 ∨ negative then some (.float (.zero n.negative)) else none
      else
        floatInSteps? n.negative significand
          (if negative then e - valueOf written else e + valueOf written)

end Numeral

end Stencil.Decimal
