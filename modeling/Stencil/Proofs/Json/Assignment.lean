import Stencil.Json.Path
import Stencil.Proofs.Text.Parts

/-!
# Reading what was written

How `Json.follow?` reads a value that `Json.assign` has written to. `Json.put` is assignment on a
list of segments that may be empty, and the laws are stated for it.

* `Comparable`: paths of which one continues the other, and where two other paths part.
* `follow?_put_self`: a written value is found where it was written.
* `follow?_put_append`: what is found on the way there.
* `follow?_put_of_diverge`: where the paths part, nothing changes, unless an array was replaced.
* `resolve?_eq_follow?`: a path is followed segment by segment if no key of the root has a dot.
-/

namespace Stencil.Json

open Text

/-! ## Segments -/

theorem segments_injective : Function.Injective segments := by
  intro p q h
  rw [← join_splitAt '.' p, ← join_splitAt '.' q]
  exact congrArg (join ['.']) h

theorem segments_ne_nil (p : Text) : segments p ≠ [] := splitAt_ne_nil '.' p

theorem dot_notMem_of_mem_segments {p segment : Text} (h : segment ∈ segments p) :
    '.' ∉ segment := notMem_of_mem_splitAt h

/-- Two lists of which none continues the other part somewhere. -/
theorem exists_diverge {α : Type} {l l' : List α} (h : ¬ l <+: l') (h' : ¬ l' <+: l) :
    ∃ common x a y b, x ≠ y ∧ l = common ++ x :: a ∧ l' = common ++ y :: b := by
  induction l generalizing l' with
  | nil => exact absurd List.nil_prefix h
  | cons x a ih =>
    cases l' with
    | nil => exact absurd List.nil_prefix h'
    | cons y b =>
      by_cases hxy : x = y
      · subst hxy
        rw [List.prefix_cons_inj] at h h'
        obtain ⟨common, x', a', y', b', hne, rfl, rfl⟩ := ih h h'
        exact ⟨x :: common, x', a', y', b', hne, rfl, rfl⟩
      · exact ⟨[], x, a, y, b, hxy, rfl, rfl⟩

/-! ## Paths that touch each other -/

/-- The segments of one path continue those of the other, or are the same. -/
def Comparable (p q : Text) : Prop := segments p <+: segments q ∨ segments q <+: segments p

instance (p q : Text) : Decidable (Comparable p q) :=
  inferInstanceAs (Decidable (_ ∨ _))

theorem exists_diverge_of_not_comparable {p q : Text} (h : ¬ Comparable p q) :
    ∃ common x a y b, x ≠ y ∧ segments p = common ++ x :: a ∧ segments q = common ++ y :: b :=
  exists_diverge (fun hle => h (Or.inl hle)) (fun hle => h (Or.inr hle))

/-! ## Following segments -/

theorem follow?_append (p q : List Text) (j : Json) :
    follow? (p ++ q) j = (follow? p j).bind (follow? q) := by
  induction p generalizing j with
  | nil => rfl
  | cons segment p ih =>
    rw [List.cons_append, follow?, follow?, Option.bind_assoc]
    congr 1
    funext inner
    exact ih inner

/-- Only arrays have something behind a segment that is not a field. -/
theorem child?_eq_get? {j : Json} (h : ∀ items, j ≠ .array items) (segment : Text) :
    j.child? segment = Entries.get? segment j.fields := by
  cases j with
  | array items => exact absurd rfl (h items)
  | _ => rfl

theorem follow?_empty (p : List Text) (segment : Text) (q : List Text) :
    follow? (p ++ segment :: q) (.object []) = none := by
  cases p <;> rfl

/-! ## Writing behind segments -/

/-- Writes a value behind segments; without a segment it takes the place of everything. -/
def put (value : Json) : List Text → Json → Json
  | [], _ => value
  | segment :: more, j =>
    .object (Entries.insert segment
      (put value more ((Entries.get? segment j.fields).getD (.object []))) j.fields)

theorem assignAt_eq_put (value : Json) (segment : Text) (more : List Text) (j : Json) :
    assignAt value segment more j = put value (segment :: more) j := by
  induction more generalizing segment j with
  | nil => rfl
  | cons next more ih => rw [assignAt, put, ih]

theorem assign_eq_put {path : Text} (h : path ≠ []) (value : Json) (fields : Entries Json) :
    assign (.object fields) path value = put value (segments path) (.object fields) := by
  obtain ⟨segment, more, hs⟩ := List.exists_cons_of_ne_nil (segments_ne_nil path)
  rw [assign, if_neg h, hs]
  exact assignAt_eq_put value segment more (.object fields)

theorem follow?_put_append (value : Json) (p q : List Text) (j : Json) :
    ∃ inner, follow? p (put value (p ++ q) j) = some (put value q inner) := by
  induction p generalizing j with
  | nil => exact ⟨j, rfl⟩
  | cons segment p ih =>
    obtain ⟨inner, hinner⟩ := ih ((Entries.get? segment j.fields).getD (.object []))
    refine ⟨inner, ?_⟩
    rw [List.cons_append, put, follow?, child?, Entries.get?_insert_self, Option.bind_some, hinner]

@[simp] theorem follow?_put_self (value : Json) (p : List Text) (j : Json) :
    follow? p (put value p j) = some value := by
  obtain ⟨inner, h⟩ := follow?_put_append value p [] j
  rwa [List.append_nil] at h

/-- Where the paths part, the written value is not found, and what was there before is kept. It is
lost only if an array stood on the way that is now an object. -/
theorem follow?_put_of_diverge {x y : Text} (hne : x ≠ y) (value : Json) (common a b : List Text)
    (j : Json) (harray : ∀ p, p <+: common → ∀ items, follow? p j ≠ some (.array items)) :
    follow? (common ++ y :: b) (put value (common ++ x :: a) j) = follow? (common ++ y :: b) j := by
  induction common generalizing j with
  | nil =>
    have hj : ∀ items, j ≠ .array items := by
      rintro items rfl
      exact harray [] List.nil_prefix items rfl
    rw [List.nil_append, List.nil_append, put, follow?, follow?, child?_eq_get? hj, child?,
      Entries.get?_insert_of_ne _ _ hne.symm]
  | cons segment common ih =>
    have hj : ∀ items, j ≠ .array items := by
      rintro items rfl
      exact harray [] List.nil_prefix items rfl
    rw [List.cons_append, List.cons_append, put, follow?, follow?, child?_eq_get? hj, child?,
      Entries.get?_insert_self, Option.bind_some]
    cases hs : Entries.get? segment j.fields with
    | none =>
      rw [Option.getD_none, Option.bind_none, ih, follow?_empty]
      intro p hp items
      cases p with
      | nil => exact fun h => by cases h
      | cons => exact fun h => by cases h
    | some inner =>
      rw [Option.getD_some, Option.bind_some, ih]
      intro p hp items h
      apply harray (segment :: p) (List.prefix_cons_inj segment |>.mpr hp) items
      rw [follow?, child?_eq_get? hj, hs, Option.bind_some, h]

/-! ## Paths in the root -/

/-- A path is followed segment by segment, unless it has a dot and is itself a key of the root. -/
theorem resolve?_eq_follow?_of_notMem {fields : Entries Json} {path : Text} (hpath : path ≠ [])
    (h : '.' ∈ path → path ∉ Entries.keys fields) :
    resolve? path (.object fields) =
      (follow? (segments path) (.object fields)).bind present? := by
  rw [resolve?, if_neg hpath]
  cases hd : Entries.get? path fields with
  | none => rfl
  | some direct =>
    have hdot : '.' ∉ path := by
      intro hdot
      rw [Entries.get?_eq_none_iff.mpr (h hdot)] at hd
      cases hd
    have hsegments : segments path = [path] := splitAt_of_notMem hdot
    rw [hsegments, follow?, child?, hd, Option.bind_some, follow?, Option.bind_some]

/-- If no key of the root has a dot, then a path is followed segment by segment. -/
theorem resolve?_eq_follow? {fields : Entries Json} (h : ∀ key ∈ Entries.keys fields, '.' ∉ key)
    {path : Text} (hpath : path ≠ []) :
    resolve? path (.object fields) =
      (follow? (segments path) (.object fields)).bind present? :=
  resolve?_eq_follow?_of_notMem hpath fun hdot hmem => h path hmem hdot

end Stencil.Json
