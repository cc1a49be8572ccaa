import Stencil.Json.Path
import Stencil.Template

/-!
# Skeletons

The skeleton of a template is the metadata that it asks for: an object in which every path of a
placeholder leads to the fallback text of that placeholder, or to the empty text. Of two
placeholders that write to the same place, the later one wins.
-/

namespace Stencil.Template

/-- Writes the fallback text of a placeholder at its path. -/
def sketch (data : Json) (p : Placeholder) : Json := data.assign p.path (.string p.fallbackText)

/-- The skeleton of a template. -/
def skeleton (template : Template) : Json :=
  template.tokens.foldl (fun data token => sketch data token.toPlaceholder) (.object [])

end Stencil.Template
