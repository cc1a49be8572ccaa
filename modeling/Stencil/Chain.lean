import Stencil.Arguments
import Stencil.Placeholder
import Stencil.Text.Word

/-!
# Chains of calls

Behind the path of a placeholder stands a chain of calls, separated by arrows. An arrow inside
parentheses does not separate: `Nesting` follows the parentheses, and the quotes inside them, along
the chain. A part that is not a name with an argument list is a call without arguments whose name is
the whole part.
-/

namespace Stencil.Chain

/-- The arrow between a path and its calls. -/
def arrow : Text := ['-', '>']

/-! ## Following parentheses and quotes -/

/-- How deep in parentheses a place of a chain is, the quote it stands in, and the character before
it. -/
structure Nesting where
  depth : Nat
  quote : Option Char
  last : Option Char
  deriving DecidableEq

/-- The start of a chain. -/
def Nesting.start : Nesting := ⟨0, none, none⟩

/-- Is this place outside all parentheses and quotes? -/
def Nesting.atTop (n : Nesting) : Bool := n.depth == 0 && n.quote.isNone

/-- The place after one more character. A closing parenthesis without an opening one changes
nothing, and quotes count inside parentheses only. -/
def Nesting.next (n : Nesting) (c : Char) : Nesting :=
  match n.quote with
  | some q => ⟨n.depth, if c = q ∧ n.last ≠ some '\\' then none else some q, some c⟩
  | none =>
    if Arguments.isQuote c && 0 < n.depth then ⟨n.depth, some c, some c⟩
    else if c = '(' then ⟨n.depth + 1, none, some c⟩
    else if c = ')' then ⟨n.depth - 1, none, some c⟩
    else ⟨n.depth, none, some c⟩

/-! ## Splitting -/

/-- Puts a character in front of the first part. -/
def glue (c : Char) : List Text → List Text
  | [] => [[c]]
  | part :: more => (c :: part) :: more

/-- Splits a chain at the arrows that stand at the top, from the place `n` on. The character before
the part behind an arrow counts as the arrow's first one. -/
def splitFrom (n : Nesting) : Text → List Text
  | [] => [[]]
  | [c] => [[c]]
  | c :: d :: t =>
    if n.atTop ∧ c = '-' ∧ d = '>' then [] :: splitFrom (n.next c) t
    else glue c (splitFrom (n.next c) (d :: t))

/-- Splits a chain at the arrows outside parentheses. -/
def split (t : Text) : List Text := splitFrom .start t

/-! ## Calls -/

/-- The name at the front of a text, and what follows it. -/
def name? : Text → Option (Text × Text)
  | [] => none
  | c :: t =>
    if Text.isNameStart c then some (c :: t.takeWhile Text.isNamePart, t.dropWhile Text.isNamePart)
    else none

/-- What stands between an opening parenthesis at the very front and a closing one at the very
end. -/
def parenthesised? : Text → Option Text
  | '(' :: t => if t.getLast? = some ')' then some t.dropLast else none
  | _ => none

/-- Reads one part of a chain: a name, a name with an argument list in parentheses, or any other
text as a call of that name without arguments. -/
def readCall (part : Text) : Call :=
  let part := Text.trim part
  match name? part with
  | none => ⟨part, []⟩
  | some (name, []) => ⟨name, []⟩
  | some (name, rest) =>
    match parenthesised? rest with
    | some inner => ⟨name, Arguments.read inner⟩
    | none => ⟨part, []⟩

/-- Reads a chain. -/
def read (t : Text) : List Call := (split t).map readCall

end Stencil.Chain
