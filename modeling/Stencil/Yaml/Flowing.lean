import Stencil.Json.Lexeme
import Stencil.Yaml.Cursor

/-!
# Plain and quoted scalars

These scalars consist of words with gaps between them and may go on over several lines. The words of
a plain scalar end where a key, a comment or a mark of a surrounding collection could begin; those
of a quoted one may hold anything, and a double-quoted one knows escapes.
-/

namespace Stencil.Yaml

/-- A scalar: its text, and whether it was written without quotes or a block header, so that it may
stand for something else than its text. -/
structure Scalar where
  text : Text
  plain : Bool
  deriving DecidableEq

/-! ## Plain scalars -/

/-- Does this character separate or enclose the items of a flow collection? -/
def isFlowMark (c : Char) : Bool := c == ',' || c == '[' || c == ']' || c == '\x7b' || c == '\x7d'

/-- Reads a word of a plain scalar. In a flow collection a colon directly before a mark is
refused. -/
def plainWord? (flow : Bool) : Text → Option (Text × Text)
  | [] => some ([], [])
  | c :: t =>
    if isGap c || isBreak c then some ([], c :: t)
    else if flow && c == ':' && t.head?.any (fun d => isFlowMark d || d == '?') then none
    else if (c == ':' && startsApart t) || (flow && isFlowMark c) then some ([], c :: t)
    else (plainWord? flow t).map fun (word, rest) => (c :: word, rest)

/-- Reads the words of a plain scalar, of which `fuel` are enough. Also tells whether a line break
was read behind the last word. -/
def plainFrom? (flow : Bool) (indent : Nat) (between : Gap) (broken : Bool) :
    Nat → Cursor → Option (Text × Bool × Cursor)
  | 0, _ => none
  | fuel + 1, cursor =>
    if cursor.atMark || cursor.rest.head? == some '#' then some ([], broken, cursor)
    else do
      let (word, rest) ← plainWord? flow cursor.rest
      if word = [] then some ([], broken, cursor)
      else
        let (next, after) ← gap? indent (cursor.leave rest)
        let broken :=
          match next with
          | .blanks _ => false
          | .lines .. => true
        let (text, broken, last) ←
          if !flow && after.column < indent then some ([], broken, after)
          else plainFrom? flow indent next broken fuel after
        pure (between.folded ++ word ++ text, broken, last)

/-- Reads a plain scalar that stands in a block of column `indent` or further to the right. -/
def plain? (flow : Bool) (indent : Nat) (cursor : Cursor) : Option (Scalar × Bool × Cursor) :=
  (plainFrom? flow indent (.blanks []) false (cursor.rest.length + 1) cursor).map
    fun (text, broken, cursor) => (⟨text, true⟩, broken, cursor)

/-! ## Quoted scalars -/

/-- Reads a word between single quotes, in which a doubled quote stands for one. -/
def singleWord : Text → Text × Text
  | '\'' :: '\'' :: t => let (word, rest) := singleWord t; ('\'' :: word, rest)
  | [] => ([], [])
  | c :: t =>
    if isGap c || isBreak c || c == '\'' then ([], c :: t)
    else let (word, rest) := singleWord t; (c :: word, rest)

/-- The character that a letter stands for behind a backslash. -/
def escaped? : Char → Option Char
  | '0' => some '\x00'
  | 'a' => some '\x07'
  | 'b' => some '\x08'
  | 't' => some '\t'
  | '\t' => some '\t'
  | 'n' => some '\n'
  | 'v' => some '\x0b'
  | 'f' => some '\x0c'
  | 'r' => some '\r'
  | 'e' => some '\x1b'
  | ' ' => some ' '
  | '"' => some '"'
  | '/' => some '/'
  | '\\' => some '\\'
  | 'N' => some (Char.ofNat 0x85)
  | '_' => some (Char.ofNat 0xA0)
  | 'L' => some (Char.ofNat 0x2028)
  | 'P' => some (Char.ofNat 0x2029)
  | _ => none

/-- How many hexadecimal digits follow a letter behind a backslash. -/
def escapeWidth? : Char → Option Nat
  | 'x' => some 2
  | 'u' => some 4
  | 'U' => some 8
  | _ => none

/-- The value of a text of hexadecimal digits. -/
def hexValue? (t : Text) : Option Nat :=
  t.foldlM (fun n c => (Json.hexValue? c).map (16 * n + ·)) 0

/-- The character of a code point, unless that is half of a surrogate pair or too large. -/
def charOf? (n : Nat) : Option Char := if n.isValidChar then some (Char.ofNat n) else none

/-- Reads a word between double quotes. `width` digits of an escape are still to come, those that
were read are `digits`. -/
def doubleWord? (width : Nat) (digits : Text) : Text → Option (Text × Text)
  | [] => if width = 0 then some ([], []) else none
  | c :: t =>
    match width with
    | 1 => do
      let n ← hexValue? (digits ++ [c])
      let char ← charOf? n
      let (word, rest) ← doubleWord? 0 [] t
      pure (char :: word, rest)
    | width + 2 => doubleWord? (width + 1) (digits ++ [c]) t
    | 0 =>
      if isGap c || isBreak c || c == '"' then some ([], c :: t)
      else if c = '\\' then
        match t with
        | [] => none
        | e :: t =>
          if isBreak e then some ([], c :: e :: t)
          else
            match escapeWidth? e with
            | some width => doubleWord? width [] t
            | none => do
              let char ← escaped? e
              let (word, rest) ← doubleWord? 0 [] t
              pure (char :: word, rest)
      else (doubleWord? 0 [] t).map fun (word, rest) => (c :: word, rest)

/-- Reads the words of a quoted scalar to its closing quote; `fuel` of them are enough. -/
def quotedFrom? (quote : Char) : Nat → Cursor → Option (Text × Cursor)
  | 0, _ => none
  | fuel + 1, cursor =>
    if cursor.atMark || cursor.rest.isEmpty then none
    else do
      let (word, rest) ←
        if quote = '"' then doubleWord? 0 [] cursor.rest else some (singleWord cursor.rest)
      let cursor := cursor.leave rest
      match rest with
      | '\\' :: _ :: t =>
        let (more, cursor) ← moreBreaks? 0 (cursor.line + 1) 0 t
        let (text, cursor) ← quotedFrom? quote fuel cursor
        pure (word ++ (Gap.lines none more).folded ++ text, cursor)
      | c :: t =>
        if c = quote then some (word, cursor.leave t)
        else
          let (next, cursor) ← gap? 0 cursor
          let (text, cursor) ← quotedFrom? quote fuel cursor
          pure (word ++ next.folded ++ text, cursor)
      | [] => none

/-- Reads a quoted scalar from its opening quote on. -/
def quoted? (cursor : Cursor) : Option (Scalar × Cursor) :=
  match cursor.rest with
  | [] => none
  | quote :: t =>
    (quotedFrom? quote cursor.rest.length (cursor.leave t)).map fun (text, cursor) =>
      (⟨text, false⟩, cursor)

end Stencil.Yaml
