import Stencil.Text.Blank

/-!
# Argument lists

The text between the parentheses of a call is a list of arguments. Reading never fails.

* A double or single quote opens a region, which ends at the next such quote that does not follow a
  backslash, or with the text. The quotes themselves are no part of the argument; a backslash is.
* Commas outside regions separate arguments. Blank characters outside regions are dropped at both
  ends of an argument.
* The last argument is left out when it is empty and was not quoted, so that `a,b,` has two
  arguments and the empty text has none.

Reading has three steps, each a function of its own: `marks` sorts the characters by regions,
`pieces` cuts at the commas, and `argument` gives the text of one piece.
-/

namespace Stencil.Arguments

/-! ## Regions -/

/-- A character of an argument list, sorted by the regions: a quote that opens or closes one, a
character inside one, or a character outside all of them. -/
inductive Mark where
  | quote
  | inside (c : Char)
  | outside (c : Char)
  deriving DecidableEq

/-- Does this character open a region? -/
def isQuote (c : Char) : Bool := c == '"' || c == '\''

/-- Sorts the characters of a text that is read within the region `region` and follows the character
`last`. -/
def marksFrom (region last : Option Char) : Text → List Mark
  | [] => []
  | c :: t =>
    match region with
    | some q =>
      if c = q ∧ last ≠ some '\\' then .quote :: marksFrom none (some c) t
      else .inside c :: marksFrom (some q) (some c) t
    | none =>
      if isQuote c then .quote :: marksFrom (some c) (some c) t
      else .outside c :: marksFrom none (some c) t

/-- Sorts the characters of an argument list. -/
def marks (t : Text) : List Mark := marksFrom none none t

/-! ## Pieces -/

/-- Cuts at the commas outside regions. -/
def pieces (ms : List Mark) : List (List Mark) := Text.splitAt (.outside ',') ms

/-- Is this a blank character outside all regions? -/
def Mark.isPadding : Mark → Bool
  | .outside c => Text.isBlank c
  | _ => false

/-- The character that a mark contributes to an argument. -/
def Mark.char? : Mark → Option Char
  | .quote => none
  | .inside c => some c
  | .outside c => some c

/-- The argument that a piece stands for. -/
def argument (piece : List Mark) : Text :=
  (Text.trimBy Mark.isPadding (piece.filter (· ≠ .quote))).filterMap Mark.char?

/-- The arguments of all pieces. The last one counts only if it is not empty or was quoted. -/
def arguments : List (List Mark) → List Text
  | [] => []
  | [last] => if argument last = [] ∧ .quote ∉ last then [] else [argument last]
  | piece :: more => argument piece :: arguments more

/-- Reads an argument list. -/
def read (t : Text) : List Text := arguments (pieces (marks t))

end Stencil.Arguments
