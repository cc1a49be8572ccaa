import Stencil.Decimal.Layout
import Stencil.Decimal.Numeral
import Stencil.Entries

/-!
# JSON values

Values with objects that keep the order in which their keys arrived.
-/

namespace Stencil

/-- A JSON value. -/
inductive Json where
  | null
  | bool (b : Bool)
  | number (n : Decimal.Number)
  | string (t : Text)
  | array (items : List Json)
  | object (fields : List (Text × Json))

namespace Json

/-- The fields of an object; any other value counts as an object without fields. -/
def fields : Json → Entries Json
  | .object fields => fields
  | _ => []

end Json

end Stencil
