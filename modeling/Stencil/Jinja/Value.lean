import Stencil.Json.Printer
import Stencil.Jinja.Lexeme
import Stencil.Text.Quoted

/-!
# Values of Jinja expressions

A value is JSON, except that numbers may also be infinite or none, that the keys of a map are
values, and that two kinds are added: what is undefined, and functions.

* `Value.isTrue` says which values count as true, `Value.order` is the order of values, and
  `Value.same` says which count as equal.
* `Value.item` looks up what is under a key or at a position.
* `Value.display` is the text of a value. Inside lists and maps strings are quoted, and the keys of
  a map are sorted.
-/

namespace Stencil.Jinja

/-- A value of an expression. -/
inductive Value where
  | undefined
  | null
  | bool (b : Bool)
  | whole (n : Int)
  | float (x : Decimal.Extended)
  | string (t : Text)
  | list (items : List Value)
  | map (fields : List (Value × Value))
  | function (name : Text)

namespace Value

/-! ## Values from JSON -/

mutual

/-- The value that a JSON value stands for. -/
def ofJson : Json → Value
  | .null => .null
  | .bool b => .bool b
  | .number (.whole n) => .whole n
  | .number (.float x) => .float (.finite x)
  | .string t => .string t
  | .array items => .list (ofItems items)
  | .object fields => .map (ofFields fields)

/-- The values of items. -/
def ofItems : List Json → List Value
  | [] => []
  | item :: more => ofJson item :: ofItems more

/-- The values of fields; their keys are strings. -/
def ofFields : List (Text × Json) → List (Value × Value)
  | [] => []
  | (key, value) :: more => (.string key, ofJson value) :: ofFields more

end

/-! ## Truth, order and equality -/

/-- Does a value count as true? -/
def isTrue : Value → Bool
  | .undefined => false
  | .null => false
  | .bool b => b
  | .whole n => n != 0
  | .float x => !x.isZero
  | .string t => !t.isEmpty
  | .list items => !items.isEmpty
  | .map fields => !fields.isEmpty
  | .function _ => true

/-- The whole number that a truth value stands for. -/
def ofTruth (b : Bool) : Int := if b then 1 else 0

/-- A number as a fraction, behind its place: before all fractions, among them, or after them. -/
def fraction? : Value → Option (Int × Int × Nat)
  | .bool b => some (0, ofTruth b, 1)
  | .whole n => some (0, n, 1)
  | .float (.finite x) => some (0, x.signedNum, x.den)
  | .float (.infinite negative) => some (if negative then -1 else 1, 0, 1)
  | _ => none

/-- The order of two numbers, by their exact values. -/
def numberOrder? (v w : Value) : Option Ordering := do
  let (place, n, d) ← v.fraction?
  let (place', n', d') ← w.fraction?
  pure ((compare place place').then (compare (n * d') (n' * d)))

/-- The place of a value's kind in the order of values. -/
def rank : Value → Nat
  | .undefined => 0
  | .null => 1
  | .bool _ => 2
  | .whole _ => 3
  | .float _ => 3
  | .string _ => 4
  | .list _ => 5
  | .map _ => 6
  | .function _ => 7

/-- The order of texts, character by character. -/
def textOrder (s t : Text) : Ordering := compare (s.map Char.toNat) (t.map Char.toNat)

mutual

/-- The order of values: by kind, then numbers by value, strings by their characters and lists item
by item. Maps have no order among each other, nor have functions. -/
def order : Value → Value → Ordering
  | .string s, .string t => textOrder s t
  | .list items, .list others => orderItems items others
  | v, w => (compare v.rank w.rank).then ((numberOrder? v w).getD .eq)

/-- The order of lists. -/
def orderItems : List Value → List Value → Ordering
  | [], [] => .eq
  | [], _ :: _ => .lt
  | _ :: _, [] => .gt
  | v :: more, w :: others => (order v w).then (orderItems more others)

end

/-- The value under a key. -/
def find? (key : Value) (fields : List (Value × Value)) : Option Value :=
  (fields.find? fun field => field.1.order key == .eq).map Prod.snd

mutual

/-- Are two values equal? Numbers are equal by value, and truth values are numbers here. -/
def same : Value → Value → Bool
  | .undefined, .undefined => true
  | .null, .null => true
  | .string s, .string t => s == t
  | .list items, .list others => sameItems items others
  | .map fields, .map others => fields.length == others.length && sameFields fields others
  | .function f, .function g => f == g
  | v, w => numberOrder? v w == some .eq

/-- Are the items of two lists equal, one by one? -/
def sameItems : List Value → List Value → Bool
  | [], [] => true
  | v :: more, w :: others => same v w && sameItems more others
  | _, _ => false

/-- Are all these fields in the others? -/
def sameFields : List (Value × Value) → List (Value × Value) → Bool
  | [], _ => true
  | (key, v) :: more, others =>
    (match find? key others with
      | some w => same v w
      | none => false) && sameFields more others

end

/-! ## Fields and positions -/

/-- The position that a value stands for. -/
def position? : Value → Option Int
  | .bool b => some (ofTruth b)
  | .whole n => some n
  | .float x => x.whole?
  | _ => none

/-- The item at a position; negative positions count from the end. -/
def itemAt? {α : Type} (items : List α) (n : Int) : Option α :=
  if 0 ≤ n then items[n.toNat]?
  else if 0 ≤ items.length + n then items[(items.length + n).toNat]?
  else none

/-- What a value holds under a key or at a position: undefined if there is nothing. An undefined
value holds nothing that could be asked for. -/
def item (v key : Value) : Except Fault Value :=
  match v, key with
  | .undefined, _ => .error .undefinedValue
  | .map fields, key => .ok ((find? key fields).getD .undefined)
  | .list items, key => .ok ((key.position?.bind (itemAt? items)).getD .undefined)
  | .string t, key =>
    .ok (((key.position?.bind (itemAt? t)).map fun c => .string [c]).getD .undefined)
  | _, _ => .ok .undefined

/-! ## Texts of values -/

/-- A float on its own is never written with an exponent. -/
def displayLayout : Decimal.Layout where
  plainFrom := -400
  plainBelow := 400
  plusSign := false
  tie := .up

/-- A float inside a list or a map has an exponent outside `10 ^ -4` to `10 ^ 16`. -/
def innerLayout : Decimal.Layout where
  plainFrom := -4
  plainBelow := 16
  plusSign := false
  tie := .up

/-- A truth value. -/
def boolText : Bool → Text
  | true => "True".toList
  | false => "False".toList

/-- A function. -/
def functionText (name : Text) : Text := "minijinja::functions::builtins::".toList ++ name

mutual

/-- A value inside a list or a map. -/
def inner : Value → Text
  | .undefined => "undefined".toList
  | .null => "None".toList
  | .bool b => boolText b
  | .whole n => Json.numberText (.whole n)
  | .float x => x.write innerLayout
  | .string t => Text.quoted t
  | .list items => '[' :: Text.join ", ".toList (innerItems items) ++ [']']
  | .map fields =>
    let sorted := (innerFields fields).mergeSort fun a b => order a.1 b.1 != .gt
    '\x7b' :: Text.join ", ".toList (sorted.map Prod.snd) ++ ['\x7d']
  | .function name => functionText name

/-- The items of a list. -/
def innerItems : List Value → List Text
  | [] => []
  | item :: more => inner item :: innerItems more

/-- The keys of a map, with the texts of the fields. -/
def innerFields : List (Value × Value) → List (Value × Text)
  | [] => []
  | (key, value) :: more =>
    (key, inner key ++ ": ".toList ++ inner value) :: innerFields more

end

/-- The text of a value; nothing for an undefined one. -/
def display : Value → Text
  | .undefined => []
  | .string t => t
  | .float x => x.write displayLayout
  | v => inner v

end Value

end Stencil.Jinja
