import Stencil.Decimal.Extended
import Stencil.Json.Lexeme

/-!
# Lexemes of Jinja expressions

What stands between double braces is a sequence of lexemes: names, strings, numbers and marks.
Strings may be written in either kind of quotes and know the escapes of JSON and the escaped single
quote. A number starts with a digit; a point belongs to it unless a name follows, so that a position
may be followed by a field.

The end of an expression is found by its lexemes: closing braces end it only where no bracket is
open. What is no lexeme becomes one of its own, `Lexeme.bad`, so that a mistake before it comes
first.
-/

namespace Stencil.Jinja

/-- What can be wrong with a page. -/
inductive Fault where
  | syntaxError
  | badEscape
  | undefinedValue
  | unknownFilter
  | missingArgument
  | tooManyArguments
  | invalidOperation
  deriving DecidableEq

/-- The operators between two operands. -/
inductive Operator where
  | or
  | and
  | equal
  | unequal
  | less
  | lessOrEqual
  | greater
  | greaterOrEqual
  | within
  | add
  | subtract
  | join
  | multiply
  | divide
  | divideWhole
  | remainder
  | power
  deriving DecidableEq

/-- The three kinds of brackets. -/
inductive Bracket where
  | round
  | square
  | curly
  deriving DecidableEq

/-- The smallest meaningful part of an expression. -/
inductive Lexeme where
  | name (t : Text)
  | string (t : Text)
  | whole (n : Nat)
  | float (x : Decimal.Extended)
  | dot
  | comma
  | colon
  | bar
  | assign
  | opening (b : Bracket)
  | closing (b : Bracket)
  | operator (op : Operator)
  | bad (fault : Fault)
  deriving DecidableEq

/-! ## Strings -/

/-- Cuts a text behind the quote that ends a string. The quote behind a backslash does not. -/
def cutString? (quote : Char) : Text → Option (Text × Text)
  | [] => none
  | '\\' :: c :: t => (cutString? quote t).map fun (inner, rest) => ('\\' :: c :: inner, rest)
  | c :: t =>
    if c = quote then some ([], t)
    else (cutString? quote t).map fun (inner, rest) => (c :: inner, rest)

theorem cutString?_length {quote : Char} {t inner rest : Text}
    (h : cutString? quote t = some (inner, rest)) : rest.length < t.length := by
  fun_induction cutString? quote t generalizing inner rest with
  | case1 => cases h
  | case2 c t ih =>
    obtain ⟨⟨_, _⟩, hp, hr⟩ := Option.map_eq_some_iff.mp h
    cases hr
    have := ih hp
    simp only [List.length_cons]
    omega
  | case3 => cases h; simp
  | case4 c t _ _ ih =>
    obtain ⟨⟨_, _⟩, hp, hr⟩ := Option.map_eq_some_iff.mp h
    cases hr
    have := ih hp
    simp only [List.length_cons]
    omega

/-- The parts of a string, escape by escape. -/
def stringPieces? : Text → Option (List Json.Piece)
  | [] => some []
  | '\\' :: 'u' :: a :: b :: c :: d :: t => do
    let n ← Json.hexUnit? a b c d
    let pieces ← stringPieces? t
    pure (.unit n :: pieces)
  | '\\' :: e :: t => do
    let c ← if e = '\'' then some '\'' else Json.escaped? e
    let pieces ← stringPieces? t
    pure (.char c :: pieces)
  | c :: t => if c = '\\' then none else (stringPieces? t).map (.char c :: ·)

/-- The text of a string. -/
def unescape? (inner : Text) : Option Text := (stringPieces? inner).bind Json.decode?

/-- Reads a string from behind its opening quote. -/
def stringLexeme (quote : Char) (t : Text) : Lexeme × Text :=
  match cutString? quote t with
  | none => (.bad .syntaxError, [])
  | some (inner, rest) =>
    match unescape? inner with
    | none => (.bad .badEscape, [])
    | some text => (.string text, rest)

theorem stringLexeme_length (quote : Char) (t : Text) :
    (stringLexeme quote t).2.length ≤ t.length := by
  unfold stringLexeme
  split
  · simp
  · rename_i inner rest h
    split
    · simp
    · exact Nat.le_of_lt (cutString?_length h)

/-! ## Names -/

/-- May a name start with this character? -/
def isNameStart (c : Char) : Bool := c.isAlpha || c == '_'

/-- May a name go on with this character? -/
def isNamePart (c : Char) : Bool := c.isAlphanum || c == '_'

/-! ## Numbers -/

/-- How far a number has come: before its point, behind it, or in its exponent. -/
inductive NumberPart where
  | whole
  | fraction
  | exponentSign
  | exponent
  deriving DecidableEq

/-- The part that a character leads to, if it belongs to the number. `t` is what follows it. -/
def NumberPart.next? (part : NumberPart) (c : Char) (t : Text) : Option NumberPart :=
  match part with
  | .whole =>
    if c.isDigit || c == '_' then some .whole
    else if c = '.' then if t.head?.any isNameStart then none else some .fraction
    else if c = 'e' ∨ c = 'E' then some .exponentSign
    else none
  | .fraction =>
    if c.isDigit || c == '_' then some .fraction
    else if c = 'e' ∨ c = 'E' then some .exponentSign
    else none
  | .exponentSign =>
    if c.isDigit ∨ c = '+' ∨ c = '-' then some .exponent
    else if c = '_' then some .exponentSign
    else none
  | .exponent => if c.isDigit || c == '_' then some .exponent else none

/-- The longest number at the front of a text, the part it ends in, and what follows it. -/
def spanNumber (part : NumberPart) : Text → Text × NumberPart × Text
  | [] => ([], part, [])
  | c :: t =>
    match part.next? c t with
    | none => ([], part, c :: t)
    | some next =>
      let (digits, last, rest) := spanNumber next t
      (c :: digits, last, rest)

theorem spanNumber_length_le (part : NumberPart) (t : Text) :
    (spanNumber part t).2.2.length ≤ t.length := by
  induction t generalizing part with
  | nil => simp [spanNumber]
  | cons c t ih =>
    simp only [spanNumber]
    split
    · simp
    · rename_i next _
      exact Nat.le_succ_of_le (ih next)

/-- Whole numbers must be smaller than this. -/
def wholeBound : Nat := Decimal.twoTo 128

/-- The whole number with the given digits. -/
def wholeLexeme (radix : Nat) (digits : Text) : Lexeme :=
  let value? := digits.foldlM
    (fun n c => ((Json.hexValue? c).filter (· < radix)).map (radix * n + ·)) 0
  match value? with
  | some n => if digits ≠ [] ∧ n < wholeBound then .whole n else .bad .syntaxError
  | none => .bad .syntaxError

/-- The number that is written in a base, or in decimals up to the given part. Underscores group the
digits; there is none at the end. -/
def numberOf (radix : Nat) (last : NumberPart) (written : Text) : Lexeme :=
  let digits := written.filter (· ≠ '_')
  if written.getLast? = some '_' then .bad .syntaxError
  else if last = .whole then wholeLexeme radix digits
  else
    match Decimal.Numeral.ofText? digits with
    | some n => .float (.ofNumeral n)
    | none => .bad .syntaxError

/-- The base that a letter behind a zero announces. -/
def radix? (c : Char) : Option Nat :=
  if c = 'x' ∨ c = 'X' then some 16
  else if c = 'o' ∨ c = 'O' then some 8
  else if c = 'b' ∨ c = 'B' then some 2
  else none

/-- Does this character belong to a number in a base? -/
def isRadixDigit (radix : Nat) (c : Char) : Bool :=
  c.isDigit || c == '_' || (radix == 16 && (Json.hexValue? c).isSome)

/-- Reads a number from its first digit on. -/
def numberLexeme (first : Char) (t : Text) : Lexeme × Text :=
  match (t.head?.bind radix?).filter fun _ => first = '0' with
  | some radix =>
    let digits := t.tail.takeWhile (isRadixDigit radix)
    (numberOf radix .whole digits, t.tail.dropWhile (isRadixDigit radix))
  | none =>
    let (digits, last, rest) := spanNumber .whole t
    (numberOf 10 last (first :: digits), rest)

theorem numberLexeme_length (first : Char) (t : Text) :
    (numberLexeme first t).2.length ≤ t.length := by
  unfold numberLexeme
  split
  · rename_i radix _
    have h1 : (t.tail.dropWhile (isRadixDigit radix)).length ≤ t.tail.length :=
      (List.dropWhile_sublist _).length_le
    have h2 : t.tail.length ≤ t.length := by simp
    exact Nat.le_trans h1 h2
  · exact spanNumber_length_le .whole t

/-! ## Lexemes -/

/-- The characters that may stand between lexemes. -/
def isSpace (c : Char) : Bool := c.isWhitespace || c == '\x0c'

/-- Reads an operator of two characters. -/
def longOperator? (c d : Char) : Option Operator :=
  match c, d with
  | '/', '/' => some .divideWhole
  | '*', '*' => some .power
  | '=', '=' => some .equal
  | '!', '=' => some .unequal
  | '>', '=' => some .greaterOrEqual
  | '<', '=' => some .lessOrEqual
  | _, _ => none

/-- The mark that is a single character. -/
def mark? : Char → Option Lexeme
  | '+' => some (.operator .add)
  | '-' => some (.operator .subtract)
  | '*' => some (.operator .multiply)
  | '/' => some (.operator .divide)
  | '%' => some (.operator .remainder)
  | '~' => some (.operator .join)
  | '>' => some (.operator .greater)
  | '<' => some (.operator .less)
  | '.' => some .dot
  | ',' => some .comma
  | ':' => some .colon
  | '|' => some .bar
  | '=' => some .assign
  | '(' => some (.opening .round)
  | ')' => some (.closing .round)
  | '[' => some (.opening .square)
  | ']' => some (.closing .square)
  | '\x7b' => some (.opening .curly)
  | '\x7d' => some (.closing .curly)
  | _ => none

/-- Reads the lexeme that starts with a given character. Nothing is left behind a bad one. -/
def lexeme (c : Char) (t : Text) : Lexeme × Text :=
  match t.head?.bind (longOperator? c) with
  | some op => (.operator op, t.tail)
  | none =>
    match mark? c with
    | some l => (l, t)
    | none =>
      if c = '"' ∨ c = '\'' then stringLexeme c t
      else if c.isDigit then numberLexeme c t
      else if isNameStart c then (.name (c :: t.takeWhile isNamePart), t.dropWhile isNamePart)
      else (.bad .syntaxError, [])

/-- A lexeme leaves no more than what follows its first character. -/
theorem lexeme_length (c : Char) (t : Text) : (lexeme c t).2.length ≤ t.length := by
  unfold lexeme
  split
  · simp
  split
  · simp
  split
  · exact stringLexeme_length c t
  split
  · exact numberLexeme_length c t
  split
  · exact (List.dropWhile_sublist _).length_le
  · simp

/-! ## Whole expressions -/

/-- The signs that may stand before closing braces: a minus trims what follows them. -/
inductive Sign where
  | minus
  | plus
  deriving DecidableEq

/-- The end of an expression at the front of a text: the sign before the closing braces, and what
follows them. -/
def ending? : Text → Option (Option Sign × Text)
  | '\x7d' :: '\x7d' :: t => some (none, t)
  | '-' :: '\x7d' :: '\x7d' :: t => some (some .minus, t)
  | '+' :: '\x7d' :: '\x7d' :: t => some (some .plus, t)
  | _ => none

theorem ending?_length {t rest : Text} {sign : Option Sign} (h : ending? t = some (sign, rest)) :
    rest.length < t.length := by
  unfold ending? at h
  split at h
  all_goals cases h
  all_goals simp only [List.length_cons]
  all_goals omega

/-- How many brackets are open behind a lexeme. -/
def Lexeme.depth (depth : Nat) : Lexeme → Nat
  | .opening _ => depth + 1
  | .closing _ => depth - 1
  | _ => depth

/-- Reads what stands between double braces, with so many brackets open: the lexemes and, if the
closing braces are there, the sign before them and what follows them. -/
def body (depth : Nat) (t : Text) : List Lexeme × Option (Option Sign × Text) :=
  match t with
  | [] => ([], none)
  | c :: t =>
    if isSpace c then body depth t
    else
      match (ending? (c :: t)).filter fun _ => depth = 0 with
      | some found => ([], some found)
      | none =>
        let l := (lexeme c t).1
        let (ls, found) := body (l.depth depth) (lexeme c t).2
        (l :: ls, found)
termination_by t.length
decreasing_by
  · simp
  · have := lexeme_length c t
    simp only [List.length_cons]
    omega

theorem body_length {depth : Nat} {t rest : Text} {sign : Option Sign}
    (h : (body depth t).2 = some (sign, rest)) : rest.length < t.length := by
  fun_induction body depth t generalizing rest with
  | case1 => cases h
  | case2 depth c t _ ih =>
    have := ih h
    simp only [List.length_cons]
    omega
  | case3 depth c t _ found hf =>
    cases h
    exact ending?_length (Option.eq_some_of_filter_eq_some hf)
  | case4 depth c t _ _ l ls found hb =>
    rename_i ih
    simp only [hb] at ih
    have := ih h
    have := lexeme_length c t
    simp only [List.length_cons]
    omega

end Stencil.Jinja
