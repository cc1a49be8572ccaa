import Stencil.Json.Basic

/-!
# Writing JSON

Two forms: `compact` without any blank, and `pretty` with one item a line and two spaces for each
level. Texts keep all characters except the quote, the backslash and control characters.
-/

namespace Stencil.Json

/-! ## Scalars -/

/-- Floats have the fewest digits that read back, without an exponent from `10 ^ -5` up to `10 ^
16`; the exponent always has a sign. -/
def floatLayout : Decimal.Layout where
  plainFrom := -5
  plainBelow := 16
  plusSign := true
  tie := .toEven

/-- A number as it is written. -/
def numberText : Decimal.Number → Text
  | .whole (.ofNat n) => Decimal.Layout.digits n
  | .whole (.negSucc n) => '-' :: Decimal.Layout.digits (n + 1)
  | .float x => floatLayout.write x

/-- A truth value as it is written. -/
def boolText : Bool → Text
  | true => "true".toList
  | false => "false".toList

/-- A hexadecimal digit. -/
def hexDigit (n : Nat) : Char := if n < 10 then Char.ofNat (48 + n) else Char.ofNat (87 + n)

/-- A character as it stands inside a string. -/
def escape (c : Char) : Text :=
  if c = '"' then ['\\', '"']
  else if c = '\\' then ['\\', '\\']
  else if c = '\n' then ['\\', 'n']
  else if c = '\r' then ['\\', 'r']
  else if c = '\t' then ['\\', 't']
  else if c = '\x08' then ['\\', 'b']
  else if c = '\x0c' then ['\\', 'f']
  else if c.toNat < 0x20 then
    ['\\', 'u', '0', '0', hexDigit (c.toNat / 16), hexDigit (c.toNat % 16)]
  else [c]

/-- A text as a string literal. -/
def literal (t : Text) : Text := '"' :: t.flatMap escape ++ ['"']

/-! ## Compact form -/

mutual

/-- A value without any blank. -/
def compact : Json → Text
  | .null => "null".toList
  | .bool b => boolText b
  | .number n => numberText n
  | .string t => literal t
  | .array [] => ['[', ']']
  | .array (item :: more) => '[' :: (compact item ++ compactItems more) ++ [']']
  | .object [] => ['\x7b', '\x7d']
  | .object ((key, value) :: more) =>
    '\x7b' :: (literal key ++ ':' :: (compact value ++ compactFields more)) ++ ['\x7d']

/-- Further items, each behind a comma. -/
def compactItems : List Json → Text
  | [] => []
  | item :: more => ',' :: (compact item ++ compactItems more)

/-- Further fields, each behind a comma. -/
def compactFields : List (Text × Json) → Text
  | [] => []
  | (key, value) :: more => ',' :: (literal key ++ ':' :: (compact value ++ compactFields more))

end

/-! ## Pretty form -/

/-- A line break and the indentation of a level. -/
def newLine (level : Nat) : Text := '\n' :: List.replicate (2 * level) ' '

mutual

/-- A value at some level, one item a line. -/
def prettyAt (level : Nat) : Json → Text
  | .null => "null".toList
  | .bool b => boolText b
  | .number n => numberText n
  | .string t => literal t
  | .array [] => ['[', ']']
  | .array (item :: more) =>
    '[' :: (newLine (level + 1) ++ prettyAt (level + 1) item ++ prettyItems (level + 1) more) ++
      newLine level ++ [']']
  | .object [] => ['\x7b', '\x7d']
  | .object ((key, value) :: more) =>
    '\x7b' :: (newLine (level + 1) ++ literal key ++ [':', ' '] ++ prettyAt (level + 1) value ++
      prettyFields (level + 1) more) ++ newLine level ++ ['\x7d']

/-- Further items of a level. -/
def prettyItems (level : Nat) : List Json → Text
  | [] => []
  | item :: more => ',' :: (newLine level ++ prettyAt level item ++ prettyItems level more)

/-- Further fields of a level. -/
def prettyFields (level : Nat) : List (Text × Json) → Text
  | [] => []
  | (key, value) :: more =>
    ',' :: (newLine level ++ literal key ++ [':', ' '] ++ prettyAt level value ++
      prettyFields level more)

end

/-- A value, one item a line. -/
def pretty (j : Json) : Text := prettyAt 0 j

/-! ## Text form -/

/-- The text that a value contributes to a page: a string itself, nothing for null, and the compact
form of all else. -/
def text : Json → Text
  | .string t => t
  | .null => []
  | j => j.compact

end Stencil.Json
