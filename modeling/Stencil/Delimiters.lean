import Stencil.Text.Basic

/-!
# Delimiters

The four marks that a template is scanned for. A placeholder stands between `opener` and `closer`;
a fallback text may follow it between `fallbackOpener` and `fallbackCloser`.
-/

namespace Stencil

/-- The marks around placeholders and fallback texts. -/
structure Delimiters where
  opener : Text := ['<', '<', '@']
  closer : Text := ['@', '>', '>']
  fallbackOpener : Text := ['[', '(']
  fallbackCloser : Text := [')', ']']
  deriving DecidableEq

namespace Delimiters

/-- One of the four marks. -/
inductive Part where
  | opener
  | closer
  | fallbackOpener
  | fallbackCloser
  deriving DecidableEq

/-- The mark that stands in one of the four places. -/
def get (d : Delimiters) : Part → Text
  | .opener => d.opener
  | .closer => d.closer
  | .fallbackOpener => d.fallbackOpener
  | .fallbackCloser => d.fallbackCloser

/-- The name under which options give a mark. -/
def Part.name : Part → Text
  | .opener => "start".toList
  | .closer => "end".toList
  | .fallbackOpener => "fallbackOpen".toList
  | .fallbackCloser => "fallbackClose".toList

/-- The four places, in the order in which they are checked. -/
def Part.all : List Part := [.opener, .closer, .fallbackOpener, .fallbackCloser]

/-- The first mark that is empty, if one is: such delimiters cannot be used. -/
def firstEmpty? (d : Delimiters) : Option Part := Part.all.find? fun p => (d.get p).isEmpty

theorem firstEmpty?_eq_none_iff {d : Delimiters} :
    d.firstEmpty? = none ↔ ∀ part, d.get part ≠ [] := by
  rw [firstEmpty?, List.find?_eq_none]
  constructor
  · intro h part
    have hmem : part ∈ Part.all := by cases part <;> decide
    simpa using h part hmem
  · intro h part _
    simpa using h part

end Delimiters

end Stencil
