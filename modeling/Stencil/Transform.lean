import Stencil.Text.Blank
import Stencil.Text.Case

/-!
# Transforms

A transform turns the value of a placeholder into another one. It sees the value, the literal
arguments of its call, and a memory that it may change; and it may fail with a reason.

* `Transform.ofText` is a transform that looks at the value alone and never fails.
* `Transform.builtIns` lists the transforms that are always there.
-/

namespace Stencil

/-- A transform with a memory of type `σ`. -/
abbrev Transform (σ : Type) := Text → List Text → σ → Except Text Text × σ

namespace Transform

/-- The transform that applies a function to the value. -/
def ofText {σ : Type} (f : Text → Text) : Transform σ :=
  fun value _ memory => (.ok (f value), memory)

/-- The functions that are always there, in order. -/
def builtIns : List (Text × (Text → Text)) :=
  [("trim".toList, Text.trim), ("upper".toList, Text.upper), ("lower".toList, Text.lower),
   ("capitalize".toList, Text.capitalize)]

end Transform

end Stencil
