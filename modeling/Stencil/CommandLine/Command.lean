import Stencil.Engine
import Stencil.Jinja.Conversion
import Stencil.Jinja.Rendering
import Stencil.Loading
import Stencil.Skeleton

/-!
# Commands

There are three commands. `render` renders a template file, `metadata` prints its skeleton, and
`convert` prints it as a Jinja page or shows that page. `Command.execute` gives the text that a
command prints.
-/

namespace Stencil

/-- A command with its options. Files are given by their paths. -/
inductive Command where
  | render (template : Text) (data config : Option Text) (strict : Bool) (fallback : Option Text)
  | metadata (template : Text)
  | convert (template : Text) (shows : Bool) (data : Option Text)
  deriving DecidableEq

namespace Command

/-- The paths of the files that a command may read. -/
def paths : Command → List Text
  | .render template data config _ _ => template :: data.toList ++ config.toList
  | .metadata template => [template]
  | .convert template _ data => template :: data.toList

/-- The metadata of a file; an empty object without one. -/
def metadataOr (files : Files) : Option Text → Except Error Json
  | none => .ok (.object [])
  | some path => files.metadata path

/-- The options of a file, or default ones, changed by what the command line says. -/
def optionsOf (files : Files) (config : Option Text) (strict : Bool) (fallback : Option Text) :
    Except Error Options := do
  let o ←
    match config with
    | none => .ok {}
    | some path => files.options path
  pure { o with strict := o.strict || strict, fallbackValue := fallback.getD o.fallbackValue }

/-- The text that a command prints. -/
def execute (files : Files) : Command → Except Error Text
  | .render template data config strict fallback => do
    let options ← optionsOf files config strict fallback
    let engine : Engine Unit ← (Engine.withOptions options).mapError .config
    let source ← files.text template
    let values ← metadataOr files data
    (engine.render (engine.parse source) values ()).result.mapError .failure
  | .metadata template => do
    let source ← files.text template
    pure (Template.parse {} source).skeleton.pretty
  | .convert template shows data => do
    let source ← files.text template
    let page := Jinja.ofTemplate (.parse {} source)
    if shows then
      let values ← metadataOr files data
      (Jinja.render page values).mapError .page
    else pure page

end Command

end Stencil
