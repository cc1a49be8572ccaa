import Stencil.Json.Basic

/-!
# Lexemes of JSON

A JSON text is a sequence of lexemes with blanks between them. Strings are kept as they are written,
escape by escape, and numbers as numerals, because what is skipped unread needs no value: half of a
surrogate pair is an error only in a string whose text is asked for.
-/

namespace Stencil.Json

/-! ## Strings -/

/-- A part of a written string: a character, or a 16-bit unit that is given by an escape. -/
inductive Piece where
  | char (c : Char)
  | unit (n : Nat)
  deriving DecidableEq

/-- The value of a hexadecimal digit. -/
def hexValue? (c : Char) : Option Nat :=
  if c.isDigit then some (c.toNat - 48)
  else if 'a' ≤ c ∧ c ≤ 'f' then some (c.toNat - 87)
  else if 'A' ≤ c ∧ c ≤ 'F' then some (c.toNat - 55)
  else none

/-- The value of four hexadecimal digits. -/
def hexUnit? (a b c d : Char) : Option Nat := do
  let a ← hexValue? a
  let b ← hexValue? b
  let c ← hexValue? c
  let d ← hexValue? d
  pure (((a * 16 + b) * 16 + c) * 16 + d)

/-- The character that a letter stands for behind a backslash. -/
def escaped? : Char → Option Char
  | '"' => some '"'
  | '\\' => some '\\'
  | '/' => some '/'
  | 'b' => some '\x08'
  | 'f' => some '\x0c'
  | 'n' => some '\n'
  | 'r' => some '\r'
  | 't' => some '\t'
  | _ => none

/-- Reads a string from behind its opening quote to its closing quote. -/
def pieces? : Text → Option (List Piece × Text)
  | [] => none
  | '"' :: t => some ([], t)
  | '\\' :: 'u' :: a :: b :: c :: d :: t => do
    let n ← hexUnit? a b c d
    let (pieces, rest) ← pieces? t
    pure (.unit n :: pieces, rest)
  | '\\' :: e :: t => do
    let c ← escaped? e
    let (pieces, rest) ← pieces? t
    pure (.char c :: pieces, rest)
  | c :: t =>
    if c.toNat < 0x20 then none
    else do
      let (pieces, rest) ← pieces? t
      pure (.char c :: pieces, rest)

/-- Is this the first unit of a surrogate pair? -/
def isHighUnit (n : Nat) : Bool := 0xD800 ≤ n && n < 0xDC00

/-- Is this the second unit of a surrogate pair? -/
def isLowUnit (n : Nat) : Bool := 0xDC00 ≤ n && n < 0xE000

/-- The text of a written string. Both units of a surrogate pair must be there. -/
def decode? : List Piece → Option Text
  | [] => some []
  | .char c :: more => (decode? more).map (c :: ·)
  | .unit n :: .unit m :: more =>
    if isHighUnit n then
      if isLowUnit m then
        (decode? more).map (Char.ofNat (0x10000 + (n - 0xD800) * 0x400 + (m - 0xDC00)) :: ·)
      else none
    else if isLowUnit n then none
    else (decode? (.unit m :: more)).map (Char.ofNat n :: ·)
  | .unit n :: more =>
    if isHighUnit n || isLowUnit n then none else (decode? more).map (Char.ofNat n :: ·)

/-! ## Numbers -/

/-- Reads a number: no zero before further digits, and digits on both sides of a point. -/
def numeral? (t : Text) : Option (Decimal.Numeral × Text) :=
  let (negative, t) :=
    match t with
    | '-' :: t => (true, t)
    | t => (false, t)
  let (whole, t) := Decimal.spanDigits t
  if whole = [] ∨ (whole.head? = some '0' ∧ whole ≠ ['0']) then none
  else
    let withExponent (fraction : Option Text) (t : Text) : Option (Decimal.Numeral × Text) :=
      (Decimal.Numeral.takeExponent? t).map fun (exponent, t) =>
        (⟨negative, whole, fraction, exponent⟩, t)
    match t with
    | '.' :: t =>
      match Decimal.spanDigits t with
      | ([], _) => none
      | (fraction, t) => withExponent (some fraction) t
    | t => withExponent none t

/-! ## Lexemes -/

/-- The smallest meaningful part of a JSON text. -/
inductive Lexeme where
  | openArray
  | closeArray
  | openObject
  | closeObject
  | comma
  | colon
  | null
  | bool (b : Bool)
  | string (pieces : List Piece)
  | number (n : Decimal.Numeral)
  deriving DecidableEq

/-- The characters that may stand between lexemes. -/
def isSpace (c : Char) : Bool := c == ' ' || c == '\n' || c == '\t' || c == '\r'

/-- Reads the lexeme at the front of a text. -/
def lexeme? : Text → Option (Lexeme × Text)
  | [] => none
  | c :: t =>
    match c with
    | '[' => some (.openArray, t)
    | ']' => some (.closeArray, t)
    | '\x7b' => some (.openObject, t)
    | '\x7d' => some (.closeObject, t)
    | ',' => some (.comma, t)
    | ':' => some (.colon, t)
    | '"' => (pieces? t).map fun (pieces, rest) => (.string pieces, rest)
    | 'n' => (Text.after? "ull".toList t).map fun rest => (.null, rest)
    | 't' => (Text.after? "rue".toList t).map fun rest => (.bool true, rest)
    | 'f' => (Text.after? "alse".toList t).map fun rest => (.bool false, rest)
    | c => (numeral? (c :: t)).map fun (n, rest) => (.number n, rest)

end Stencil.Json
