import Stencil.Jinja.Value

/-!
# Operators of Jinja expressions

What the operators give for their operands. Whole numbers stay within 128 bits, a float makes the
other operand a float, and truth values count as numbers. Operands that an operator does not know
are an invalid operation.
-/

namespace Stencil.Jinja

namespace Value

/-! ## Numbers -/

/-- The number of bits of whole numbers, one of which is the sign. -/
def wholeBits : Nat := 128

/-- The whole number that an operand stands for. -/
def whole? : Value → Option Int
  | .bool b => some (ofTruth b)
  | .whole n => if Decimal.fitsSigned wholeBits n then some n else none
  | _ => none

/-- The float that an operand stands for. -/
def float? : Value → Option Decimal.Extended
  | .bool b => some (.ofInt (ofTruth b))
  | .whole n => some (.ofInt n)
  | .float x => some x
  | _ => none

/-- A whole number as a result. -/
def ofWhole (n : Int) : Except Fault Value :=
  if Decimal.fitsSigned wholeBits n then .ok (.whole n) else .error .invalidOperation

/-- The result of an operation on two numbers: on whole numbers if both are, else on floats. -/
def arithmetic (wholes : Int → Int → Option Int)
    (floats : Decimal.Extended → Decimal.Extended → Decimal.Extended) (v w : Value) :
    Except Fault Value :=
  let asFloats :=
    match v.float?, w.float? with
    | some x, some y => .ok (.float (floats x y))
    | _, _ => .error .invalidOperation
  match v, w with
  | .float _, _ => asFloats
  | _, .float _ => asFloats
  | v, w =>
    match v.whole?, w.whole? with
    | some m, some n =>
      match wholes m n with
      | some result => ofWhole result
      | none => .error .invalidOperation
    | _, _ => .error .invalidOperation

/-- A value under a minus sign. The first number that has too many bits stays as it is. -/
def negate : Value → Except Fault Value
  | .whole n => if n = Decimal.twoTo (wholeBits - 1) then .ok (.whole n) else ofWhole (-n)
  | .float x => .ok (.float x.neg)
  | _ => .error .invalidOperation

/-- A power of a whole number. A greater exponent than the number of bits matters only by its parity
where the power is small, and where it is not the result is too large anyway. -/
def power (v w : Value) : Except Fault Value :=
  match v.whole?, w.whole? with
  | some m, some n =>
    if 0 ≤ n ∧ n < Decimal.twoTo 32 then
      let k := n.toNat
      ofWhole (Int.pow m (if k < wholeBits then k else wholeBits + k % 2))
    else .error .invalidOperation
  | _, _ => .error .invalidOperation

/-- The quotient of two numbers is a float. -/
def divide (v w : Value) : Except Fault Value :=
  match v.float?, w.float? with
  | some x, some y => .ok (.float (x.div y))
  | _, _ => .error .invalidOperation

/-! ## Texts and lists -/

/-- A text or a list several times over. -/
def repeated {α : Type} (items : List α) (count : Value) : Except Fault (List α) :=
  match count.position? with
  | some n =>
    if 0 ≤ n then .ok (List.replicate n.toNat items).flatten else .error .invalidOperation
  | none => .error .invalidOperation

/-- The product of two numbers, or a text or a list as often as the other operand says. -/
def multiply (v w : Value) : Except Fault Value :=
  match v, w with
  | .string _, .string _ => .error .invalidOperation
  | .string t, n => (repeated t n).map .string
  | n, .string t => (repeated t n).map .string
  | .list items, n => (repeated items n).map .list
  | n, .list items => (repeated items n).map .list
  | v, w => arithmetic (some <| · * ·) Decimal.Extended.mul v w

/-- The sum of two numbers, or two texts or lists one after the other. -/
def add (v w : Value) : Except Fault Value :=
  match v, w with
  | .string s, .string t => .ok (.string (s ++ t))
  | .list items, .list others => .ok (.list (items ++ others))
  | v, w => arithmetic (some <| · + ·) Decimal.Extended.add v w

/-- Is a value in another one: a text in a text, an item in a list, or a key in a map? -/
def within (v : Value) : Value → Except Fault Value
  | .undefined => .ok (.bool false)
  | .string t => .ok (.bool (Text.cut? v.display t).isSome)
  | .list items => .ok (.bool (items.any fun item => item.same v))
  | .map fields => .ok (.bool (find? v fields).isSome)
  | .function _ => .ok (.bool false)
  | _ => .error .invalidOperation

end Value

/-! ## Operators -/

/-- Does the first operand alone decide the result? Then it is the result. -/
def Operator.isSettledBy (v : Value) : Operator → Bool
  | .or => v.isTrue
  | .and => !v.isTrue
  | _ => false

/-- What an operator gives for two operands, the first of which does not decide alone. -/
def Operator.apply (v w : Value) : Operator → Except Fault Value
  | .or => .ok w
  | .and => .ok w
  | .equal => .ok (.bool (v.same w))
  | .unequal => .ok (.bool !(v.same w))
  | .less => .ok (.bool (v.order w == .lt))
  | .lessOrEqual => .ok (.bool (v.order w != .gt))
  | .greater => .ok (.bool (v.order w == .gt))
  | .greaterOrEqual => .ok (.bool (v.order w != .lt))
  | .within => v.within w
  | .add => v.add w
  | .subtract => Value.arithmetic (some <| · - ·) Decimal.Extended.sub v w
  | .join => .ok (.string (v.display ++ w.display))
  | .multiply => v.multiply w
  | .divide => v.divide w
  | .divideWhole =>
    Value.arithmetic (fun m n => if n = 0 then none else some (m / n)) Decimal.Extended.divWhole v w
  | .remainder =>
    Value.arithmetic (fun m n => if n = 0 then none else some (m % n)) Decimal.Extended.rem v w
  | .power => v.power w

end Stencil.Jinja
