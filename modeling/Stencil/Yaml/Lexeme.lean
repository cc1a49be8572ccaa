import Stencil.Yaml.Block

/-!
# Lexemes of YAML

The structure of a YAML text is in its marks and in its indentation. Both become lexemes: a line
that stands further to the right than the collection around it may open a block collection, and one
that stands further to the left closes those that it leaves.

A key is known as such only when its colon is found. So every scalar or flow collection that may
turn out to be a key is remembered, with the number of lexemes before it, and the lexemes that
announce a key are put there later. A key stands on one line and its colon at most 1024 bytes behind
its start.

Anchors, aliases, tags, directives and keys with a question mark are refused.
-/

namespace Stencil.Yaml

/-- The smallest meaningful part of a YAML text. -/
inductive Lexeme where
  | documentStart
  | documentEnd
  | openBlockSequence
  | openBlockMapping
  | closeBlock
  | openFlowSequence
  | closeFlowSequence
  | openFlowMapping
  | closeFlowMapping
  | item
  | separator
  | key
  | value
  | scalar (s : Scalar)
  deriving DecidableEq

/-! ## State -/

/-- Something that may turn out to be a key: the number of lexemes before it, its place, the number
of bytes from there to the end of the text, and whether it cannot be anything else. -/
structure PossibleKey where
  position : Nat
  line : Nat
  column : Nat
  bytesLeft : Nat
  required : Bool

/-- How far a text has been read. `lexemes` has the last one first, `blocks` the columns of the open
block collections, the innermost first, and `keys` what may turn out to be a key, for each open flow
collection and, last, for the block around them. -/
structure Reading where
  cursor : Cursor
  lexemes : List Lexeme
  blocks : List Nat
  keys : List (Option PossibleKey)
  mayStartKey : Bool

namespace Reading

/-- The start of a text. -/
def start (t : Text) : Reading := ⟨⟨t, 0, 0⟩, [], [], [none], true⟩

/-- Is a flow collection open? -/
def inFlow (r : Reading) : Bool := 1 < r.keys.length

/-- The least column of what belongs into the innermost open block. -/
def indent (r : Reading) : Nat :=
  match r.blocks with
  | [] => 0
  | column :: _ => column + 1

/-- Adds a lexeme. -/
def emit (l : Lexeme) (r : Reading) : Reading := { r with lexemes := l :: r.lexemes }

/-- Moves on by so many characters of a line. -/
def move (n : Nat) (r : Reading) : Reading := { r with cursor := r.cursor.skip n }

/-- Sets whether a key may start next. -/
def allow (b : Bool) (r : Reading) : Reading := { r with mayStartKey := b }

/-! ## Indentation -/

/-- Closes the blocks to the right of a column. In a flow collection there are none. -/
def closeBlocks (column : Nat) (r : Reading) : Reading :=
  if r.inFlow then r
  else
    let left := r.blocks.takeWhile (column < ·)
    { r with
      blocks := r.blocks.dropWhile (column < ·)
      lexemes := left.map (fun _ => .closeBlock) ++ r.lexemes }

/-- Closes all blocks. -/
def closeAllBlocks (r : Reading) : Reading :=
  if r.inFlow then r
  else { r with blocks := [], lexemes := r.blocks.map (fun _ => .closeBlock) ++ r.lexemes }

/-- Puts lexemes in front of all but the first `position` ones. -/
def insertAt (position : Nat) (ls : List Lexeme) (r : Reading) : Reading :=
  let later := r.lexemes.length - position
  { r with lexemes := r.lexemes.take later ++ ls.reverse ++ r.lexemes.drop later }

/-- Opens a block at a column that is to the right of all open ones; `first` is its lexeme, which
stands behind the first `position` ones. -/
def openBlock (column position : Nat) (first : Lexeme) (r : Reading) : Reading :=
  if r.inFlow ∨ column < r.indent then r
  else { r with blocks := column :: r.blocks }.insertAt position [first]

/-! ## Possible keys -/

/-- What may turn out to be a key on the innermost level. -/
def possibleKey (r : Reading) : Option PossibleKey := r.keys.head?.join

/-- Sets what may turn out to be a key on the innermost level. -/
def setKey (k : Option PossibleKey) (r : Reading) : Reading := { r with keys := k :: r.keys.tail }

/-- Forgets what may turn out to be a key. One that cannot be anything else is a mistake. -/
def dropKey? (r : Reading) : Option Reading :=
  match r.possibleKey with
  | none => some r
  | some k => if k.required then none else some (r.setKey none)

/-- Remembers the place of the next lexeme as that of a possible key, if a key may start here. -/
def noteKey? (r : Reading) : Option Reading :=
  if r.mayStartKey then do
    let r ← r.dropKey?
    pure (r.setKey (some ⟨r.lexemes.length, r.cursor.line, r.cursor.column, r.cursor.rest.size,
      !r.inFlow && r.blocks.head? == some r.cursor.column⟩))
  else some r

/-- The greatest distance between the start of a key and its colon, in bytes. -/
def longestKey : Nat := 1024

/-- Forgets a possible key that can no longer be one on a line with so many bytes left. -/
def refresh? (line bytesLeft : Nat) : Option PossibleKey → Option (Option PossibleKey)
  | none => some none
  | some k =>
    if k.line < line ∨ bytesLeft + longestKey < k.bytesLeft then
      if k.required then none else some none
    else some (some k)

/-! ## Lexemes -/

/-- Skips blanks, comments and line breaks. After a line break of a block a key may start. A tab is
skipped only where no key may start. A byte order mark at the front of a line takes up a column. -/
def skipBlanks (flow mayStartKey inComment : Bool) (line column : Nat) : Text → Cursor × Bool
  | [] => (⟨[], line, column⟩, mayStartKey)
  | c :: t =>
    if column == 0 && isByteOrderMark c then skipBlanks flow mayStartKey inComment line 1 t
    else if isBreak c then skipBlanks flow (mayStartKey || !flow) false (line + 1) 0 t
    else if inComment || c == ' ' || (c == '\t' && (flow || !mayStartKey)) then
      skipBlanks flow mayStartKey inComment line (column + 1) t
    else if c = '#' then skipBlanks flow mayStartKey true line (column + 1) t
    else (⟨c :: t, line, column⟩, mayStartKey)

/-- Goes to the next lexeme and closes the blocks that it leaves. -/
def advance? (r : Reading) : Option Reading := do
  let (cursor, mayStartKey) :=
    skipBlanks r.inFlow r.mayStartKey false r.cursor.line r.cursor.column r.cursor.rest
  let keys ← r.keys.mapM (refresh? cursor.line cursor.rest.size)
  pure ({ r with cursor := cursor, mayStartKey := mayStartKey, keys := keys }.closeBlocks
    cursor.column)

/-- Reads the mark of a document. -/
def mark? (l : Lexeme) (r : Reading) : Option Reading := do
  let r ← r.closeAllBlocks.dropKey?
  pure (((r.allow false).move 3).emit l)

/-- Opens a flow collection. -/
def openFlow? (l : Lexeme) (r : Reading) : Option Reading := do
  let r ← r.noteKey?
  pure ((({ r with keys := none :: r.keys }.allow true).move 1).emit l)

/-- Closes a flow collection. -/
def closeFlow? (l : Lexeme) (r : Reading) : Option Reading := do
  let r ← r.dropKey?
  let r := if r.inFlow then { r with keys := r.keys.tail } else r
  pure (((r.allow false).move 1).emit l)

/-- Reads the comma of a flow collection. -/
def separator? (r : Reading) : Option Reading := do
  let r ← r.dropKey?
  pure (((r.allow true).move 1).emit .separator)

/-- Reads the dash of a block sequence. -/
def item? (r : Reading) : Option Reading :=
  if !r.inFlow && !r.mayStartKey then none
  else do
    let r ← (r.openBlock r.cursor.column r.lexemes.length .openBlockSequence).dropKey?
    pure (((r.allow true).move 1).emit .item)

/-- Reads the colon behind a key. -/
def value? (r : Reading) : Option Reading :=
  match r.possibleKey with
  | some k =>
    let r := (r.insertAt k.position [.key]).openBlock k.column k.position .openBlockMapping
    some ((((r.setKey none).allow false).move 1).emit .value)
  | none =>
    if !r.inFlow && !r.mayStartKey then none
    else
      let r := r.openBlock r.cursor.column r.lexemes.length .openBlockMapping
      some (((r.allow !r.inFlow).move 1).emit .value)

/-- Reads a block scalar. -/
def blockScalar? (folded : Bool) (r : Reading) : Option Reading := do
  let r ← r.dropKey?
  let (s, cursor) ← block? folded r.indent (r.cursor.skip 1)
  pure (({ r with cursor := cursor }.allow true).emit (.scalar s))

/-- Reads a quoted scalar. -/
def quotedScalar? (r : Reading) : Option Reading := do
  let r ← r.noteKey?
  let (s, cursor) ← quoted? r.cursor
  pure (({ r with cursor := cursor }.allow false).emit (.scalar s))

/-- Reads a plain scalar. -/
def plainScalar? (r : Reading) : Option Reading := do
  let r ← r.noteKey?
  let (s, broken, cursor) ← plain? r.inFlow r.indent r.cursor
  pure (({ r with cursor := cursor }.allow broken).emit (.scalar s))

/-- The characters that no plain scalar starts with, apart from those that may if a letter
follows. -/
def isIndicator (c : Char) : Bool := ",[]\x7b\x7d#&*!|>'\"%@`".toList.contains c

/-- Reads the lexeme that starts with a given character. -/
def lexeme? (c : Char) (t : Text) (r : Reading) : Option Reading :=
  if r.cursor.column = 0 ∧ c = '%' then none
  else if r.cursor.atMark then r.mark? (if c = '-' then .documentStart else .documentEnd)
  else if c = '[' then r.openFlow? .openFlowSequence
  else if c = '\x7b' then r.openFlow? .openFlowMapping
  else if c = ']' then r.closeFlow? .closeFlowSequence
  else if c = '\x7d' then r.closeFlow? .closeFlowMapping
  else if c = ',' then r.separator?
  else if c = '-' ∧ startsApart t then r.item?
  else if c = '?' ∧ (r.inFlow ∨ startsApart t) then none
  else if c = ':' ∧ (r.inFlow ∨ startsApart t) then r.value?
  else if c = '|' ∧ !r.inFlow then r.blockScalar? false
  else if c = '>' ∧ !r.inFlow then r.blockScalar? true
  else if c = '"' ∨ c = '\'' then r.quotedScalar?
  else if isIndicator c ∨ isGap c then none
  else r.plainScalar?

/-- Ends the reading. -/
def finish? (r : Reading) : Option (List Lexeme) := do
  let r ← r.closeAllBlocks.dropKey?
  pure r.lexemes.reverse

/-- Reads lexemes to the end, of which `fuel` are enough. -/
def readAll? : Nat → Reading → Option (List Lexeme)
  | 0, _ => none
  | fuel + 1, r => do
    let r ← r.advance?
    match r.cursor.rest with
    | [] => r.finish?
    | c :: t => do
      let r ← r.lexeme? c t
      readAll? fuel r

end Reading

/-- The lexemes of a text. -/
def lexemes? (t : Text) : Option (List Lexeme) :=
  if t.all isAllowed then
    let t := unifyBreaks t
    Reading.readAll? (t.length + 1) (Reading.start t)
  else none

end Stencil.Yaml
