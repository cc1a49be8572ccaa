import Stencil.Registry

/-!
# Registries that share transforms

Several registries may hold the same transform, and a transform may depend on how often it was
called. A `Counted` transform has an identity, and the `Tally` counts the calls of each identity,
whatever registry and name they went through.

`Sharing` is a growing list of registries with the tally of their transforms. A `Step` adds a
registry, registers a transform, or applies one; `Sharing.step` performs it.
-/

namespace Stencil

/-! ## Counted transforms -/

/-- A transform that sees the number of its call, counted from one. -/
structure Counted where
  id : Nat
  act : Nat → Text → List Text → Except Text Text

/-- How often each transform was called. -/
abbrev Tally := Nat → Nat

namespace Tally

/-- No calls at all. -/
def zero : Tally := fun _ => 0

/-- One more call of a transform. -/
def add (id : Nat) (tally : Tally) : Tally := fun n => if n = id then tally n + 1 else tally n

@[simp] theorem add_self (id : Nat) (tally : Tally) : tally.add id id = tally id + 1 := by
  simp [add]

theorem add_of_ne {id n : Nat} (tally : Tally) (h : n ≠ id) : tally.add id n = tally n := by
  simp [add, h]

end Tally

namespace Counted

/-- A counted transform that does not care about the number of its call. -/
def ofText (id : Nat) (f : Text → Text) : Counted := ⟨id, fun _ value _ => .ok (f value)⟩

/-- A counted transform as a transform whose memory is the tally. -/
def transform (c : Counted) : Transform Tally := fun value args tally =>
  (c.act (tally c.id + 1) value args, tally.add c.id)

/-- The functions that are always there, with identities from `id` on. -/
def builtIns (id : Nat) : Registry Counted :=
  Transform.builtIns.mapIdx fun i (name, f) => (name, ofText (id + i) f)

end Counted

/-! ## Registries side by side -/

/-- Registries, the tally of their transforms, and the identity of the next new transform. -/
structure Sharing where
  registries : List (Registry Counted)
  tally : Tally
  nextId : Nat

/-- A change of the registries. Registries are named by their position. -/
inductive Sharing.Step where
  | addStandard
  | addEmpty
  | addCopy (source : Nat)
  | register (target : Nat) (name : Text) (act : Nat → Text → List Text → Except Text Text)
  | share (target : Nat) (name : Text) (source : Nat) (of : Text)
  | apply (target : Nat) (name input : Text) (args : List Text)

/-- What a step tells: which registry it added or changed, that a name is not there, or the result
of a call. -/
inductive Sharing.Outcome where
  | changed (registry : Registry Counted)
  | absent (name : Text)
  | applied (result : Except Text Text)

namespace Sharing

/-- One standard registry. -/
def start : Sharing :=
  ⟨[Counted.builtIns 0], .zero, Transform.builtIns.length⟩

/-- The registry at a position. A position that is not there has an empty one. -/
def registry (s : Sharing) (n : Nat) : Registry Counted := s.registries.getD n .empty

/-- Adds a registry at the end. -/
def push (registry : Registry Counted) (s : Sharing) : Outcome × Sharing :=
  (.changed registry, { s with registries := s.registries ++ [registry] })

/-- Registers a transform in the registry at a position. -/
def put (target : Nat) (name : Text) (c : Counted) (s : Sharing) : Outcome × Sharing :=
  let registry := (s.registry target).register name c
  (.changed registry, { s with registries := s.registries.set target registry })

/-- Performs a step. -/
def step (s : Sharing) : Step → Outcome × Sharing
  | .addStandard =>
    { s with nextId := s.nextId + Transform.builtIns.length }.push (Counted.builtIns s.nextId)
  | .addEmpty => s.push .empty
  | .addCopy source => s.push (s.registry source)
  | .register target name act =>
    { s with nextId := s.nextId + 1 }.put target name ⟨s.nextId, act⟩
  | .share target name source of =>
    match (s.registry source).find? of with
    | none => (.absent of, s)
    | some c => s.put target name c
  | .apply target name input args =>
    match (s.registry target).find? name with
    | none => (.absent name, s)
    | some c =>
      let (result, tally) := c.transform input args s.tally
      (.applied result, { s with tally := tally })

end Sharing

end Stencil
