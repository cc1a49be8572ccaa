import Stencil.Entries
import Stencil.Text.Quoted
import Stencil.Transform

/-!
# Registries

A registry holds transforms under names, in the order in which the names were first registered.
Registering under a name that is taken replaces the transform and keeps the place. What a registry
holds is a parameter: plain transforms, or transforms whose calls are counted.
-/

namespace Stencil

/-- Names with what is registered under them. -/
abbrev Registry (α : Type) := Entries α

namespace Registry

variable {α : Type}

/-- A registry that holds nothing. -/
def empty : Registry α := []

/-- The names, in the order of their first registration. -/
def names (registry : Registry α) : List Text := Entries.keys registry

/-- What is registered under a name. -/
def find? (name : Text) (registry : Registry α) : Option α := Entries.get? name registry

/-- Is something registered under this name? -/
def contains (name : Text) (registry : Registry α) : Bool := (registry.find? name).isSome

/-- Registers something under a name. -/
def register (name : Text) (item : α) (registry : Registry α) : Registry α :=
  Entries.insert name item registry

/-- A registry with the functions that are always there. -/
def standard {σ : Type} : Registry (Transform σ) :=
  Transform.builtIns.map fun (name, f) => (name, Transform.ofText f)

theorem find?_standard {σ : Type} (name : Text) :
    (standard : Registry (Transform σ)).find? name =
      (Entries.get? name Transform.builtIns).map Transform.ofText :=
  Entries.get?_map Transform.ofText name Transform.builtIns

/-- The registry as it is described to a person: its names, quoted. -/
def description (registry : Registry α) : Text :=
  "TransformRegistry \x7b functions: [".toList ++
    Text.join ", ".toList (registry.names.map Text.quoted) ++ "] \x7d".toList

end Registry

end Stencil
