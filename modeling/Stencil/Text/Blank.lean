import Stencil.Text.Basic

/-!
# Blank characters

The 25 characters with the Unicode property White_Space, and trimming by them. No-break spaces and
the line separator are among them; the zero-width space and the byte order mark are not.
-/

namespace Stencil.Text

/-- Is `n` in one of the closed ranges? -/
def inRanges (ranges : List (Nat × Nat)) (n : Nat) : Bool :=
  ranges.any fun r => r.1 ≤ n && n ≤ r.2

/-- The code points with the property White_Space, as closed ranges. -/
def blankRanges : List (Nat × Nat) :=
  [(0x09, 0x0D), (0x20, 0x20), (0x85, 0x85), (0xA0, 0xA0), (0x1680, 0x1680), (0x2000, 0x200A),
   (0x2028, 0x2029), (0x202F, 0x202F), (0x205F, 0x205F), (0x3000, 0x3000)]

/-- Is this a blank character? -/
def isBlank (c : Char) : Bool := inRanges blankRanges c.toNat

/-- Drops the blank characters at both ends. -/
def trim (t : Text) : Text := trimBy isBlank t

/-- Drops the blank characters at the front. -/
def trimStart (t : Text) : Text := t.dropWhile isBlank

end Stencil.Text
