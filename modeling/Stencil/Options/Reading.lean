import Stencil.Json.Reader
import Stencil.Options
import Stencil.Yaml.Value

/-!
# Reading options

Options are a record with the fields `strict`, `fallbackValue` and `wrapper`, and the wrapper is a
record with the four delimiters. A field that is left out has its default value, one that is not
known is passed over, and one that is written twice is a mistake.

A `Format` says how records, truth values and texts are written. In JSON a record may also be an
array of its fields in order. In YAML it may be left out, and any scalar is a text. A text is read
as JSON if it can be, and as YAML otherwise.
-/

namespace Stencil

/-! ## Records -/

/-- How the parts of options are written in documents of type `α`. The fields of a record are given
with their names, of which the first argument has the known ones in order. -/
structure Format (α : Type) where
  record? : List Text → α → Option (List (Text × α))
  bool? : α → Option Bool
  text? : α → Option Text

namespace Format

variable {α β : Type}

/-- The value of a field that is written once at most, if it is written. -/
def field? (name : Text) (fields : List (Text × α)) : Option (Option α) :=
  match fields.filter (·.1 = name) with
  | [] => some none
  | [(_, value)] => some (some value)
  | _ => none

/-- Reads a field, which has a default value. -/
def fieldOr? (read? : α → Option β) (name : Text) (missing : β) (fields : List (Text × α)) :
    Option β :=
  (field? name fields).bind fun value =>
    match value with
    | none => some missing
    | some value => read? value

/-- Reads delimiters. -/
def delimiters? (f : Format α) (doc : α) : Option Delimiters := do
  let default : Delimiters := {}
  let fields ← f.record? (Delimiters.Part.all.map Delimiters.Part.name) doc
  let opener ← fieldOr? f.text? (Delimiters.Part.name .opener) default.opener fields
  let closer ← fieldOr? f.text? (Delimiters.Part.name .closer) default.closer fields
  let fallbackOpener ←
    fieldOr? f.text? (Delimiters.Part.name .fallbackOpener) default.fallbackOpener fields
  let fallbackCloser ←
    fieldOr? f.text? (Delimiters.Part.name .fallbackCloser) default.fallbackCloser fields
  pure ⟨opener, closer, fallbackOpener, fallbackCloser⟩

/-- Reads options. -/
def options? (f : Format α) (doc : α) : Option Options := do
  let default : Options := {}
  let fields ← f.record? ["strict".toList, "fallbackValue".toList, "wrapper".toList] doc
  let strict ← fieldOr? f.bool? "strict".toList default.strict fields
  let fallbackValue ← fieldOr? f.text? "fallbackValue".toList default.fallbackValue fields
  let wrapper ← fieldOr? f.delimiters? "wrapper".toList default.wrapper fields
  pure ⟨strict, fallbackValue, wrapper⟩

end Format

/-! ## JSON -/

namespace Json.Written

/-- The fields of a record, written as an object, or as an array in the order of the names. -/
def record? (names : List Text) : Written → Option (List (Text × Written))
  | .object fields =>
    fields.mapM fun (key, value) => (decode? key).map fun key => (key, value)
  | .array items => if items.length ≤ names.length then some (names.zip items) else none
  | _ => none

/-- A truth value. -/
def bool? : Written → Option Bool
  | .bool b => some b
  | _ => none

/-- A text. -/
def text? : Written → Option Text
  | .string pieces => decode? pieces
  | _ => none

/-- The JSON format. -/
def format : Format Written := ⟨record?, bool?, text?⟩

end Json.Written

/-! ## YAML -/

namespace Yaml.Node

/-- The fields of a record, which is a mapping or left out. -/
def record? (_names : List Text) : Node → Option (List (Text × Node))
  | .mapping pairs =>
    pairs.mapM fun (key, value) => key.keyText?.map fun key => (key, value)
  | .scalar s => if s.plain && s.text.isEmpty then some [] else none
  | .sequence _ => none

/-- A truth value, which must be plain. -/
def bool? : Node → Option Bool
  | .scalar s => if s.plain then Yaml.bool? s.text else none
  | _ => none

/-- The YAML format. -/
def format : Format Node := ⟨record?, bool?, keyText?⟩

/-- The options of a text. Without a document they have their default values. -/
def options? (t : Text) : Option Options :=
  match ofText? t with
  | none => none
  | some none => some {}
  | some (some node) => format.options? node

end Yaml.Node

/-! ## Texts -/

/-- Options as a JSON text writes them. -/
def Json.options? (t : Text) : Option Options :=
  (Json.Written.ofText? t).bind Json.Written.format.options?

/-- Reads options from a JSON or YAML text. -/
def Options.read (t : Text) : Except ConfigError Options :=
  match Json.options? t <|> Yaml.Node.options? t with
  | none => .error .invalidOptions
  | some o => o.validate

/-- Reads metadata from a JSON or YAML text. -/
def Json.readMetadata (t : Text) : Except ConfigError Json :=
  match Json.read? t <|> Yaml.read? t with
  | none => .error .invalidMetadata
  | some v => .ok v

end Stencil
