import Stencil.Delimiters
import Stencil.Json.Printer
import Stencil.Text.Quoted

/-!
# Options

How templates are rendered: whether missing keys and unknown functions are failures of the whole,
which text stands in for a value that is missing, and which delimiters are used.
-/

namespace Stencil

/-- The options of rendering. -/
structure Options where
  strict : Bool := false
  fallbackValue : Text := []
  wrapper : Delimiters := {}
  deriving DecidableEq

/-- What is wrong with a configuration: a delimiter is empty, or a text is in neither format. -/
inductive ConfigError where
  | emptyDelimiter (part : Delimiters.Part)
  | invalidOptions
  | invalidMetadata
  deriving DecidableEq

/-- The mistake in words. -/
def ConfigError.message : ConfigError → Text
  | .emptyDelimiter part => "wrapper.".toList ++ part.name ++ " must not be empty".toList
  | .invalidOptions => "Invalid configuration format".toList
  | .invalidMetadata => "Invalid metadata format".toList

namespace Options

/-- The options, unless a delimiter is empty: then the first one that is. -/
def validate (o : Options) : Except ConfigError Options :=
  match o.wrapper.firstEmpty? with
  | some part => .error (.emptyDelimiter part)
  | none => .ok o

/-- Options are accepted as they are, if no delimiter is empty, and not otherwise. -/
theorem validate_eq_ok_iff {o o' : Options} :
    o.validate = .ok o' ↔ o' = o ∧ ∀ part, o.wrapper.get part ≠ [] := by
  rw [← Delimiters.firstEmpty?_eq_none_iff, validate]
  cases o.wrapper.firstEmpty? with
  | none => simp [eq_comm]
  | some part => simp

theorem get_ne_nil_of_validate {o : Options} (h : o.validate = .ok o) (part : Delimiters.Part) :
    o.wrapper.get part ≠ [] := (validate_eq_ok_iff.mp h).2 part

/-- The options as they are described to a person. -/
def description (o : Options) : Text :=
  "EngineOptions \x7b strict: ".toList ++ Json.boolText o.strict ++
    ", fallback_value: ".toList ++ Text.quoted o.fallbackValue ++
    ", wrapper: Delimiters \x7b start: ".toList ++ Text.quoted o.wrapper.opener ++
    ", end: ".toList ++ Text.quoted o.wrapper.closer ++
    ", fallback_open: ".toList ++ Text.quoted o.wrapper.fallbackOpener ++
    ", fallback_close: ".toList ++ Text.quoted o.wrapper.fallbackCloser ++ " \x7d \x7d".toList

end Options

end Stencil
