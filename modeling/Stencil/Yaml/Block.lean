import Stencil.Yaml.Flowing

/-!
# Block scalars

A block scalar has a header on its own line and a body of further-indented lines. Literal bodies
keep their line breaks; folded ones join lines that do not start with a blank. The header may give
the indentation, which is otherwise that of the first line with text, and says what becomes of the
line breaks at the end.
-/

namespace Stencil.Yaml

/-- What becomes of the line breaks at the end of a body: none is kept, one, or all. -/
inductive Chomping where
  | strip
  | clip
  | keep
  deriving DecidableEq

/-- The header of a block scalar. An indentation of zero is to be found out. -/
structure Header where
  folded : Bool
  chomping : Chomping
  extra : Nat
  deriving DecidableEq

/-- Reads the sign of a header. -/
def takeChomping : Text → Option Chomping × Text
  | '+' :: t => (some .keep, t)
  | '-' :: t => (some .strip, t)
  | t => (none, t)

/-- Reads the digit of a header. Zero is refused. -/
def takeExtra? : Text → Option (Nat × Text)
  | [] => some (0, [])
  | c :: t =>
    if c.isDigit then if c = '0' then none else some (c.toNat - '0'.toNat, t) else some (0, c :: t)

/-- Reads the sign and the digit of a header, in either order. -/
def header? (folded : Bool) (t : Text) : Option (Header × Text) :=
  match takeChomping t with
  | (some chomping, t) => do
    let (extra, t) ← takeExtra? t
    pure (⟨folded, chomping, extra⟩, t)
  | (none, t) => do
    let (extra, t) ← takeExtra? t
    let (chomping, t) := if extra = 0 then (none, t) else takeChomping t
    pure (⟨folded, chomping.getD .clip, extra⟩, t)

/-- Reads the rest of the header's line, which may hold a comment. -/
def endHeader? (cursor : Cursor) : Option Cursor :=
  let rest := cursor.rest.dropWhile isGap
  let rest := if rest.head? = some '#' then rest.dropWhile (!isBreak ·) else rest
  match rest with
  | [] => some (cursor.leave [])
  | c :: t => if isBreak c then some ⟨t, cursor.line + 1, 0⟩ else none

/-- Reads empty lines and the indentation of the next one. An indentation of zero is to be found
out; then `deepest` is the greatest column so far. -/
def emptyLines? (indent deepest line column : Nat) : Text → Option (Text × Nat × Cursor)
  | [] => some ([], max deepest column, ⟨[], line, column⟩)
  | c :: t =>
    if isGap c && (indent == 0 || column < indent) then
      if c = '\t' then none else emptyLines? indent deepest line (column + 1) t
    else if isBreak c then
      (emptyLines? indent (max deepest column) (line + 1) 0 t).map fun (breaks, deepest, cursor) =>
        (c :: breaks, deepest, cursor)
    else some ([], max deepest column, ⟨c :: t, line, column⟩)

/-- What stands between two lines of a body: the break that ends the first one, and empty lines. -/
structure Space where
  first : Option Char
  more : Text

/-- The text of a space before another line. In a folded body a single break between two lines that
do not start with a blank becomes a space, and of several breaks the first is dropped. -/
def Space.text (space : Space) (folds : Bool) : Text :=
  if folds && space.first == some '\n' then
    if space.more = [] then [' '] else space.more
  else space.first.toList ++ space.more

/-- Does a line start with a blank? -/
def startsBlank (t : Text) : Bool := t.head?.any isGap

/-- Reads the lines of a body, of which `fuel` are enough. The first one follows `space`, and
`blankBefore` tells whether the line before it starts with a blank. -/
def blockLines? (folded : Bool) (indent : Nat) (space : Space) (blankBefore : Bool) :
    Nat → Cursor → Option (Text × Space × Cursor)
  | 0, _ => none
  | fuel + 1, cursor =>
    if cursor.column ≠ indent ∨ cursor.rest = [] then some ([], space, cursor)
    else do
      let line := cursor.rest.takeWhile (!isBreak ·)
      let folds := folded && !blankBefore && !startsBlank line
      let rest := cursor.rest.dropWhile (!isBreak ·)
      let (first, rest, number, column) :=
        match rest with
        | [] => (none, [], cursor.line, cursor.column + line.length)
        | c :: t => (some c, t, cursor.line + 1, 0)
      let (more, _, after) ← emptyLines? indent 0 number column rest
      let (text, last, after) ←
        blockLines? folded indent ⟨first, more⟩ (startsBlank line) fuel after
      pure (space.text folds ++ line ++ text, last, after)

/-- The line breaks that are kept at the end of a body. -/
def Space.chomped (space : Space) : Chomping → Text
  | .strip => []
  | .clip => space.first.toList
  | .keep => space.first.toList ++ space.more

/-- Reads a block scalar from behind its first character on. It belongs to a block of column
`parent - 1`. -/
def block? (folded : Bool) (parent : Nat) (cursor : Cursor) : Option (Scalar × Cursor) := do
  let (header, rest) ← header? folded cursor.rest
  let start ← endHeader? (cursor.leave rest)
  let given := if header.extra = 0 then 0 else parent - 1 + header.extra
  let (empty, deepest, cursor) ← emptyLines? given 0 start.line start.column start.rest
  let indent := if given = 0 then max (max deepest parent) 1 else given
  let (text, last, cursor) ←
    blockLines? folded indent ⟨none, empty⟩ false (cursor.rest.length + 1) cursor
  pure (⟨text ++ last.chomped header.chomping, false⟩, cursor)

end Stencil.Yaml
