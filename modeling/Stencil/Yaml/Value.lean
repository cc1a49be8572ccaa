import Stencil.Json.Basic
import Stencil.Yaml.Node

/-!
# Values of YAML documents

A plain scalar may stand for null, a truth value or a number; any other one is its text. Whole
numbers must fit 64 bits, unless they are too large even for 128 bits and become floats.
-/

namespace Stencil.Yaml

/-! ## Scalars -/

/-- The plain texts that stand for null. -/
def isNull (t : Text) : Bool :=
  t.isEmpty || ["null", "Null", "NULL", "~"].any fun s => t == s.toList

/-- The truth value that a plain text stands for. -/
def bool? (t : Text) : Option Bool :=
  if ["true", "True", "TRUE"].any (fun s => t == s.toList) then some true
  else if ["false", "False", "FALSE"].any (fun s => t == s.toList) then some false
  else none

/-- The value of a digit. -/
def digitValue? (radix : Nat) (c : Char) : Option Nat :=
  (Json.hexValue? c).filter (· < radix)

/-- The natural number with the given digits. -/
def natural? (radix : Nat) (t : Text) : Option Nat :=
  if t = [] then none
  else t.foldlM (fun n c => (digitValue? radix c).map (radix * n + ·)) 0

/-- Do the digits start with a zero that does not count? Such a text is no number. -/
def isPadded (digits : Text) : Bool := 1 < digits.length && digits.head? == some '0'

/-- The absolute value of a whole number, in base 16, 8, 2 or 10. -/
def magnitude? : Text → Option Nat
  | '0' :: 'x' :: t => natural? 16 t
  | '0' :: 'o' :: t => natural? 8 t
  | '0' :: 'b' :: t => natural? 2 t
  | t => if isPadded t && t.all Char.isDigit then none else natural? 10 t

/-- The whole number that a plain text stands for. -/
def whole? : Text → Option Int
  | '-' :: t => (magnitude? t).map fun n => -(n : Int)
  | '+' :: t => (magnitude? t).map Int.ofNat
  | t => (magnitude? t).map Int.ofNat

/-- A text without the sign in front. -/
def unsigned : Text → Text
  | '-' :: t => t
  | '+' :: t => t
  | t => t

/-- Is this a text that stands for a value that is no number or infinite? -/
def isNotFinite (t : Text) : Bool :=
  [".nan", ".NaN", ".NAN", ".inf", ".Inf", ".INF", "+.inf", "+.Inf", "+.INF", "-.inf", "-.Inf",
    "-.INF"].any fun s => t == s.toList

/-- The finite float that a plain text stands for. -/
def float? (t : Text) : Option Decimal.Binary64 :=
  if isPadded (unsigned t) && (unsigned t).all Char.isDigit then none
  else
    match t with
    | '+' :: '+' :: _ => none
    | '+' :: '-' :: _ => none
    | t => (Decimal.Numeral.ofText? t).bind Decimal.Numeral.nearest?

/-- The value of a plain text that stands for no whole number within 128 bits. -/
def otherValue (t : Text) : Json :=
  if isNotFinite t then .null
  else
    match float? t with
    | some x => .number (.float x)
    | none => .string t

/-- The value of a plain text. -/
def plainValue? (t : Text) : Option Json :=
  if isNull t then some .null
  else
    match bool? t with
    | some b => some (.bool b)
    | none =>
      match whole? t with
      | some n =>
        if Decimal.fits 64 n then some (.number (.whole n))
        else if Decimal.fits 128 n then none
        else some (otherValue t)
      | none => some (otherValue t)

/-- The value of a scalar. -/
def Scalar.value? (s : Scalar) : Option Json :=
  if s.plain then plainValue? s.text else some (.string s.text)

/-! ## Nodes -/

/-- How many collections may be nested. -/
def greatestDepth : Nat := 128

/-- The text of a key, which must be a scalar. -/
def Node.keyText? : Node → Option Text
  | .scalar s => some s.text
  | _ => none

mutual

/-- The value of a node, with room for so many nested collections. -/
def Node.valueWithin? (room : Nat) : Node → Option Json
  | .scalar s => s.value?
  | .sequence items =>
    match room with
    | 0 => none
    | room + 1 => (itemsWithin? room items).map .array
  | .mapping pairs =>
    match room with
    | 0 => none
    | room + 1 => (pairsWithin? room pairs).map fun fields => .object (Entries.ofList fields)

/-- The values of the items of a sequence. -/
def itemsWithin? (room : Nat) : List Node → Option (List Json)
  | [] => some []
  | item :: more => do
    let value ← Node.valueWithin? room item
    let values ← itemsWithin? room more
    pure (value :: values)

/-- The keys and values of the entries of a mapping, as they are written. -/
def pairsWithin? (room : Nat) : List (Node × Node) → Option (List (Text × Json))
  | [] => some []
  | (key, item) :: more => do
    let key ← key.keyText?
    let value ← Node.valueWithin? room item
    let fields ← pairsWithin? room more
    pure ((key, value) :: fields)

end

/-- The value that a text holds: null if it holds no document. -/
def read? (t : Text) : Option Json :=
  match Node.ofText? t with
  | none => none
  | some none => some .null
  | some (some node) => node.valueWithin? greatestDepth

end Stencil.Yaml
