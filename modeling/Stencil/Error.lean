import Stencil.Failure
import Stencil.Files
import Stencil.Jinja.Lexeme
import Stencil.Options

/-!
# Errors

Everything that can go wrong in a command, and how it is said.
-/

namespace Stencil

/-- Why a command fails: a placeholder fails for good, a configuration is wrong, a file cannot be
read, or a page cannot be shown. -/
inductive Error where
  | failure (f : Failure)
  | config (e : ConfigError)
  | file (e : FileError)
  | page (f : Jinja.Fault)
  deriving DecidableEq

namespace Error

/-- A fault of a page in words. -/
def faultText : Jinja.Fault → Text
  | .syntaxError => "syntax error".toList
  | .badEscape => "bad string escape".toList
  | .undefinedValue => "undefined value".toList
  | .unknownFilter => "unknown filter".toList
  | .missingArgument => "missing argument".toList
  | .tooManyArguments => "too many arguments".toList
  | .invalidOperation => "invalid operation".toList

/-- The error in words. -/
def message : Error → Text
  | .failure f => f.message
  | .config e => "Configuration error: ".toList ++ e.message
  | .file e => "IO error: ".toList ++ e.message
  | .page f => "MiniJinja error: ".toList ++ faultText f

end Error

end Stencil
