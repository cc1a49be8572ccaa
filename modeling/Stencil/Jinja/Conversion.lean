import Stencil.Decimal.Numeral
import Stencil.Json.Printer
import Stencil.Template

/-!
# Conversion to Jinja

A placeholder becomes an expression between double braces: its path, a `default` filter with the
fallback text if there is one, and a filter for each call. The text around placeholders stays.
-/

namespace Stencil.Jinja

/-- May this character stand in an argument that is written as a number? -/
def isNumberPart (c : Char) : Bool := c.isDigit || c == '.' || c == '-'

/-- An argument: a number stays as it is, and all else becomes a string literal. -/
def argument (arg : Text) : Text :=
  if arg.all isNumberPart && (Decimal.Numeral.ofText? arg).isSome then arg else Json.literal arg

/-- A filter with its arguments, behind a bar. -/
def filter (name : Text) (args : List Text) : Text :=
  " | ".toList ++ name ++
    if args = [] then [] else '(' :: Text.join ", ".toList args ++ [')']

/-- A placeholder as an expression. -/
def expression (p : Placeholder) : Text :=
  let default :=
    match p.fallback with
    | some text => filter "default".toList [Json.literal text]
    | none => []
  "\x7b\x7b ".toList ++ p.path ++ default ++
    (p.calls.flatMap fun call => filter call.name (call.args.map argument)) ++ " \x7d\x7d".toList

/-- A template with an expression in the place of each placeholder. -/
def ofTemplate (template : Template) : Text :=
  template.map fun token => expression token.toPlaceholder

end Stencil.Jinja
