import Stencil.Jinja.Filter
import Stencil.Jinja.Operation
import Stencil.Jinja.Page

/-!
# Rendering Jinja pages

A page shows the values of its expressions. A name stands for a field of the context or for a
function that every page knows; any other name is undefined. All faults in reading come before any
in evaluation, and of those the first one counts.

* `Expression.value` evaluates an expression.
* `render` reads a page and shows its values.
-/

namespace Stencil.Jinja

/-- The functions that every page knows. -/
def functions : List Text :=
  ["range".toList, "dict".toList, "debug".toList, "namespace".toList]

/-- The value of a name. A field of the context hides the function of its name. -/
def lookUp (context : Json) (name : Text) : Value :=
  match Entries.get? name context.fields with
  | some j => .ofJson j
  | none => if name ∈ functions then .function name else .undefined

namespace Expression

mutual

/-- The value of an expression. -/
def value (context : Json) : Expression → Except Fault Value
  | .literal v => .ok v
  | .name t => .ok (lookUp context t)
  | .list items => (values context items).map .list
  | .map fields => (fieldValues context fields).map .map
  | .item e key => do
    let v ← e.value context
    let k ← key.value context
    v.item k
  | .negation e => do
    let v ← e.value context
    v.negate
  | .not e => (e.value context).map fun v => .bool !v.isTrue
  | .binary op l r => do
    let v ← l.value context
    if op.isSettledBy v then pure v
    else do
      let w ← r.value context
      op.apply v w
  | .choice condition yes no => do
    let v ← condition.value context
    if v.isTrue then yes.value context else no.value context
  | .filter t e args => do
    let v ← e.value context
    let ws ← values context args
    applyFilter t v ws

/-- The values of expressions, from left to right. -/
def values (context : Json) : List Expression → Except Fault (List Value)
  | [] => .ok []
  | e :: more => do
    let v ← e.value context
    let vs ← values context more
    pure (v :: vs)

/-- The values of keys and fields, from left to right. A later field takes the place of an earlier
one under the same key. -/
def fieldValues (context : Json) :
    List (Expression × Expression) → Except Fault (List (Value × Value))
  | [] => .ok []
  | (key, e) :: more => do
    let k ← key.value context
    let v ← e.value context
    let fields ← fieldValues context more
    pure (if (Value.find? k fields).isSome then fields else (k, v) :: fields)

end

end Expression

/-! ## Pages -/

/-- The text that a part shows. -/
def Part.shown (context : Json) : Part → Except Fault Text
  | .text t => .ok t
  | .value e => (e.value context).map Value.display

/-- The text that parts show. -/
def showParts (context : Json) (parts : List Part) : Except Fault Text :=
  (parts.mapM (Part.shown context)).map List.flatten

/-- Reads a page and shows it in a context. -/
def render (page : Text) (context : Json) : Except Fault Text := do
  let parts ← read page
  showParts context parts

end Stencil.Jinja
