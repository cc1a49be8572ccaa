import Stencil.Json.Basic

/-!
# Dotted paths

A path names a place inside a value: fields of objects and, for reading, positions in arrays, with
dots between them. Null counts as absent.

* `resolve?` reads. A field of the root whose key is the whole path comes first; otherwise the
  segments of the path are followed one by one.
* `assign` writes. Objects that are missing on the way are created, and what is no object on the way
  is replaced by one.
-/

namespace Stencil.Json

/-! ## Reading -/

/-- The segments of a path. -/
def segments (path : Text) : List Text := Text.splitAt '.' path

/-- The array position that a segment names: digits, perhaps behind a plus sign. -/
def position? (segment : Text) : Option Nat :=
  let digits :=
    match segment with
    | '+' :: t => t
    | t => t
  if digits ≠ [] ∧ digits.all Char.isDigit then some (Decimal.valueOf digits) else none

/-- The value behind one segment. -/
def child? (segment : Text) : Json → Option Json
  | .object fields => Entries.get? segment fields
  | .array items => (position? segment).bind fun n => items[n]?
  | _ => none

/-- The value behind several segments. -/
def follow? : List Text → Json → Option Json
  | [], j => some j
  | segment :: more, j => (j.child? segment).bind (follow? more)

/-- Null counts as absent. -/
def present? : Json → Option Json
  | .null => none
  | j => some j

/-- The value at a path. -/
def resolve? (path : Text) : Json → Option Json
  | .object fields =>
    if path = [] then none
    else
      match Entries.get? path fields with
      | some direct => direct.present?
      | none => (follow? (segments path) (.object fields)).bind present?
  | _ => none

/-! ## Writing -/

/-- Writes a value behind a segment and further ones. -/
def assignAt (value : Json) : Text → List Text → Json → Json
  | segment, [], j => .object (Entries.insert segment value j.fields)
  | segment, next :: more, j =>
    let inner := (Entries.get? segment j.fields).getD (.object [])
    .object (Entries.insert segment (assignAt value next more inner) j.fields)

/-- Writes a value at a path of an object. The empty path writes nothing. -/
def assign (j : Json) (path : Text) (value : Json) : Json :=
  match j with
  | .object fields =>
    if path = [] then .object fields
    else
      match segments path with
      | [] => .object fields
      | segment :: more => assignAt value segment more (.object fields)
  | j => j

end Stencil.Json
