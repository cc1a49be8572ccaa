import Stencil.Text.CaseTable

/-!
# Upper and lower case

Case follows the full mappings of Unicode, so a text may change its length: `ß` becomes `SS`. In
lower case the capital sigma has two forms; the final one stands at the end of a word, that is
after a cased letter and not before one, marks and signs between them left aside.
-/

namespace Stencil.Text

/-! ## Single characters -/

/-- The characters that `c` becomes by a table: an expansion, a move, or `c` itself. -/
def mapCase (expansions : List (Nat × List Nat)) (runs : List Run) (c : Char) : Text :=
  match expansions.find? fun e => e.1 == c.toNat with
  | some e => e.2.map Char.ofNat
  | none =>
    match runs.findSome? fun r => r.move? c.toNat with
    | some n => [Char.ofNat n]
    | none => [c]

/-- The upper-case form of a character. -/
def upperChar (c : Char) : Text :=
  if c.toNat < 0x80 then [c.toUpper] else mapCase upperExpansions upperRuns c

/-- The lower-case form of a character on its own. -/
def lowerChar (c : Char) : Text :=
  if c.toNat < 0x80 then [c.toLower] else mapCase lowerExpansions lowerRuns c

/-! ## Texts -/

/-- Is there a cased letter next, characters without influence on case left aside? -/
def casedNext (t : Text) : Bool :=
  match t.dropWhile fun c => inRanges caseIgnorableRanges c.toNat with
  | [] => false
  | c :: _ => inRanges casedRanges c.toNat

/-- The capital sigma, whose lower-case form depends on its neighbours. -/
def capitalSigma : Char := Char.ofNat 0x3A3

/-- A text in upper case. -/
def upper (t : Text) : Text := t.flatMap upperChar

/-- Lower case of a text that stands behind `before`, which is given in reverse. -/
def lowerAfter (before : Text) : Text → Text
  | [] => []
  | c :: t =>
    let form :=
      if c = capitalSigma then
        [Char.ofNat (if casedNext before && !casedNext t then 0x3C2 else 0x3C3)]
      else lowerChar c
    form ++ lowerAfter (c :: before) t

/-- A text in lower case. -/
def lower (t : Text) : Text := lowerAfter [] t

/-- The first character in upper case and the rest, as a text of its own, in lower case. -/
def capitalize : Text → Text
  | [] => []
  | c :: t => upperChar c ++ lower t

end Stencil.Text
