import Stencil.Error
import Stencil.Options.Reading

/-!
# Loading

Options and metadata from files.
-/

namespace Stencil

/-- The text of a file. -/
def Files.text (files : Files) (path : Text) : Except Error Text := (files path).mapError .file

/-- Loads options from a JSON or YAML file. -/
def Files.options (files : Files) (path : Text) : Except Error Options := do
  let t ← files.text path
  (Options.read t).mapError .config

/-- Loads metadata from a JSON or YAML file. -/
def Files.metadata (files : Files) (path : Text) : Except Error Json := do
  let t ← files.text path
  (Json.readMetadata t).mapError .config

end Stencil
