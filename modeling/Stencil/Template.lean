import Stencil.Scan

/-!
# Templates

A template is a text together with the placeholders that were found in it. Any texts can be put in
the place of its placeholders. A replacement always goes to the first place where the source text of
the placeholder still stands.
-/

namespace Stencil

/-- A text and its placeholders. -/
structure Template where
  source : Text
  tokens : List Token
  deriving DecidableEq

namespace Template

/-- Scans a text. -/
def parse (d : Delimiters) (source : Text) : Template := ⟨source, scan d source⟩

/-- Puts `value` in the place of the first occurrence of `raw`; without one the text stays. -/
def substitute (raw value t : Text) : Text := (Text.replaceFirst? raw value t).getD t

/-- Replaces the given tokens one after the other. The state is handed from each replacement to the
next one. -/
def replaceTokens {σ : Type} (replace : Token → σ → Text × σ) :
    List Token → Text → σ → Text × σ
  | [], t, s => (t, s)
  | token :: more, t, s =>
    let (value, s) := replace token s
    replaceTokens replace more (substitute token.raw value t) s

/-- Replaces every token of a template by what `replace` gives for it, in source order. -/
def replaceEach {σ : Type} (replace : Token → σ → Text × σ) (template : Template) (s : σ) :
    Text × σ :=
  replaceTokens replace template.tokens template.source s

/-- Replaces every token of a template by a text that depends on the token alone. -/
def map (replace : Token → Text) (template : Template) : Text :=
  (template.replaceEach (fun token (_ : Unit) => (replace token, ())) ()).1

end Template

end Stencil
