import Stencil.Jinja.Value
import Stencil.Text.Case

/-!
# Filters

The filters that pages know: `default`, `trim`, `upper`, `lower`, `capitalize` and `replace`. All
but the first work on the text of a value.
-/

namespace Stencil.Jinja

/-- The filters that are known. -/
inductive Filter where
  | default
  | trim
  | upper
  | lower
  | capitalize
  | replace
  deriving DecidableEq

namespace Filter

/-- The known filter of a name. -/
def ofName? (t : Text) : Option Filter :=
  if t = "default".toList then some .default
  else if t = "trim".toList then some .trim
  else if t = "upper".toList then some .upper
  else if t = "lower".toList then some .lower
  else if t = "capitalize".toList then some .capitalize
  else if t = "replace".toList then some .replace
  else none

/-- The value that stands in for a missing one: the empty text, unless another is given. -/
def standIn : Value → Value
  | .undefined => .string []
  | .null => .string []
  | v => v

/-- Is a value missing? A lax reader also misses what does not count as true. -/
def isMissing (lax : Bool) : Value → Bool
  | .undefined => true
  | v => lax && !v.isTrue

/-- A value, or what stands in for it if it is missing. -/
def orStandIn (v other : Value) (lax : Bool) : Value := if isMissing lax v then standIn other else v

/-- Applies a function of the text of a value, which takes no arguments. -/
def onText (f : Text → Text) (v : Value) : List Value → Except Fault Value
  | [] => .ok (.string (f v.display))
  | _ => .error .tooManyArguments

/-- Drops blank characters, or all the given ones, at both ends of the text of a value. -/
def trimmed (v : Value) : List Value → Except Fault Value
  | [] | [.undefined] | [.null] => .ok (.string (Text.trim v.display))
  | [chars] => .ok (.string (Text.trimBy (· ∈ chars.display) v.display))
  | _ => .error .tooManyArguments

/-- Applies a filter to a value. -/
def apply (v : Value) (filter : Filter) (args : List Value) : Except Fault Value :=
  match filter, args with
  | .default, [] => .ok (orStandIn v .undefined false)
  | .default, [other] => .ok (orStandIn v other false)
  | .default, [other, lax] => .ok (orStandIn v other lax.isTrue)
  | .default, _ => .error .tooManyArguments
  | .trim, args => trimmed v args
  | .upper, args => onText Text.upper v args
  | .lower, args => onText Text.lower v args
  | .capitalize, args => onText Text.capitalize v args
  | .replace, [old, new] =>
    .ok (.string (Text.replaceAll old.display new.display v.display))
  | .replace, [] => .error .missingArgument
  | .replace, [_] => .error .missingArgument
  | .replace, _ => .error .tooManyArguments

end Filter

/-- Applies the filter of a name to a value. -/
def applyFilter (name : Text) (v : Value) (args : List Value) : Except Fault Value :=
  match Filter.ofName? name with
  | some filter => filter.apply v args
  | none => .error .unknownFilter

end Stencil.Jinja
