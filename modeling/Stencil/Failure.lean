import Stencil.Placeholder

/-!
# Failures of placeholders

What can go wrong with one placeholder while a template is rendered, and where.
-/

namespace Stencil

/-- Why a placeholder fails: its path leads nowhere, a call names no known transform, or a transform
gives up with a reason. -/
inductive Failure.Cause where
  | missingKey
  | unknownFunction (name : Text)
  | transform (name reason : Text)
  deriving DecidableEq

/-- A cause, with the key and the path of the placeholder. -/
structure Failure where
  cause : Failure.Cause
  key : Text
  path : Text
  deriving DecidableEq

namespace Failure

/-- A failure of the given placeholder. -/
def of (p : Placeholder) (cause : Cause) : Failure := ⟨cause, p.key, p.path⟩

/-- The transform that was being applied. -/
def function? (f : Failure) : Option Text :=
  match f.cause with
  | .missingKey => none
  | .unknownFunction name => some name
  | .transform name _ => some name

/-- The failure in words. -/
def message (f : Failure) : Text :=
  match f.cause with
  | .missingKey => "Missing key: ".toList ++ f.path
  | .unknownFunction name => "Unknown function: ".toList ++ name
  | .transform name reason =>
    "Transform '".toList ++ name ++ "' failed for ".toList ++ f.path ++ ": ".toList ++ reason

end Failure

end Stencil
