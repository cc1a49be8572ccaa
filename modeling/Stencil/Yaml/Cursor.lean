import Stencil.Text.Basic

/-!
# Places in a YAML text

A cursor is what is left of a text, with the line and the column it starts at. Line breaks are made
uniform before a text is read; the line and the paragraph separator stay what they are and break
lines, too.
-/

namespace Stencil.Yaml

/-! ## Characters -/

/-- May this character stand in a YAML text? -/
def isAllowed (c : Char) : Bool :=
  let n := c.toNat
  n == 0x09 || n == 0x0A || n == 0x0D || (0x20 ≤ n && n ≤ 0x7E) || n == 0x85 ||
    (0xA0 ≤ n && n ≤ 0xD7FF) || (0xE000 ≤ n && n ≤ 0xFFFD) || 0x10000 ≤ n

/-- Writes every line break in one way, but keeps the line and the paragraph separator. -/
def unifyBreaks : Text → Text
  | [] => []
  | '\r' :: '\n' :: t => '\n' :: unifyBreaks t
  | c :: t => (if c = '\r' ∨ c.toNat = 0x85 then '\n' else c) :: unifyBreaks t

/-- Does this character end a line? -/
def isBreak (c : Char) : Bool := c == '\n' || c.toNat == 0x2028 || c.toNat == 0x2029

/-- Does this character separate words on a line? -/
def isGap (c : Char) : Bool := c == ' ' || c == '\t'

/-- Does a text start with something that separates words, or with nothing at all? -/
def startsApart : Text → Bool
  | [] => true
  | c :: _ => isGap c || isBreak c

/-- Does a text start with the mark of a document, three dashes or three dots that stand apart? -/
def startsWithMark : Text → Bool
  | '-' :: '-' :: '-' :: t => startsApart t
  | '.' :: '.' :: '.' :: t => startsApart t
  | _ => false

/-- Is this the byte order mark? -/
def isByteOrderMark (c : Char) : Bool := c.toNat == 0xFEFF

/-! ## Cursors -/

/-- What is left of a text, and where that starts. -/
structure Cursor where
  rest : Text
  line : Nat
  column : Nat
  deriving DecidableEq

namespace Cursor

/-- The cursor behind some characters of a line, where `rest` is left. -/
def leave (c : Cursor) (rest : Text) : Cursor :=
  ⟨rest, c.line, c.column + (c.rest.length - rest.length)⟩

/-- The cursor behind so many characters of a line. -/
def skip (n : Nat) (c : Cursor) : Cursor := c.leave (c.rest.drop n)

/-- Does the mark of a document stand here? -/
def atMark (c : Cursor) : Bool := c.column == 0 && startsWithMark c.rest

end Cursor

/-! ## Gaps -/

/-- What separates two words of a scalar: characters on one line, or line breaks. The first line
break is missing where it was escaped. -/
inductive Gap where
  | blanks (t : Text)
  | lines (first : Option Char) (more : Text)
  deriving DecidableEq

/-- What a gap contributes to a scalar: a single line break becomes a space, and of several ones the
first is dropped. Separators are kept. -/
def Gap.folded : Gap → Text
  | .blanks t => t
  | .lines (some '\n') [] => [' ']
  | .lines (some '\n') more => more
  | .lines (some c) more => c :: more
  | .lines none more => more

/-- Reads further line breaks and the characters between them. A tab in a column below `indent` is
refused. -/
def moreBreaks? (indent line column : Nat) : Text → Option (Text × Cursor)
  | [] => some ([], ⟨[], line, column⟩)
  | c :: t =>
    if isGap c then
      if c = '\t' ∧ column < indent then none else moreBreaks? indent line (column + 1) t
    else if isBreak c then
      (moreBreaks? indent (line + 1) 0 t).map fun (breaks, cursor) => (c :: breaks, cursor)
    else some ([], ⟨c :: t, line, column⟩)

/-- Reads a gap. -/
def gap? (indent : Nat) (cursor : Cursor) : Option (Gap × Cursor) :=
  let after := cursor.leave (cursor.rest.dropWhile isGap)
  match after.rest with
  | c :: t =>
    if isBreak c then
      (moreBreaks? indent (cursor.line + 1) 0 t).map fun (more, cursor) =>
        (.lines (some c) more, cursor)
    else some (.blanks (cursor.rest.takeWhile isGap), after)
  | [] => some (.blanks (cursor.rest.takeWhile isGap), after)

end Stencil.Yaml
