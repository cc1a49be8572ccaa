import Stencil.Text.Basic

/-!
# Placeholders

What a placeholder says: a key, perhaps inside a scope, a chain of calls, and perhaps a fallback
text. A token is a placeholder together with the place in a template where it was found.
-/

namespace Stencil

/-- One call of a chain: a name and its literal arguments. -/
structure Call where
  name : Text
  args : List Text
  deriving DecidableEq

/-- The content of a placeholder. -/
structure Placeholder where
  scope : Option Text
  key : Text
  calls : List Call
  fallback : Option Text
  deriving DecidableEq

/-- The dotted path that a placeholder looks up: its key, behind its scope if it has one. -/
def Placeholder.path (p : Placeholder) : Text :=
  match p.scope with
  | some scope => scope ++ '.' :: p.key
  | none => p.key

/-- The fallback text, or nothing. -/
def Placeholder.fallbackText (p : Placeholder) : Text := p.fallback.getD []

/-- A placeholder found in a template: its exact source text, which includes the fallback, and the
byte offsets where that text starts and stops. -/
structure Token extends Placeholder where
  raw : Text
  start : Nat
  stop : Nat
  deriving DecidableEq

end Stencil
