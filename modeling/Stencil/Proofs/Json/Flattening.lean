import Stencil.Proofs.Engine.Selection
import Stencil.Proofs.Entries.Pairs
import Stencil.Proofs.Json.Assignment

/-!
# Flat metadata

Metadata may be nested or flat: `flatten` writes each leaf of an object under its whole path, with
dots between the keys. A path that leads to a leaf, or to nothing, leads to the same in both, and
this is all that a rendering asks for.

* `mem_leaves_iff`: the leaves of a value are what paths lead to.
* `get?_leafTable_iff`: the fields of a flattened object are its leaves under their paths.
* `flatten_agrees`: reading and rendering do not distinguish the two forms.
-/

namespace Stencil

namespace Json

open Text

/-! ## Leaves -/

/-- A value without further values inside: a scalar or null. -/
def IsLeaf : Json → Prop
  | .array _ => False
  | .object _ => False
  | _ => True

instance : DecidablePred IsLeaf
  | .null | .bool _ | .number _ | .string _ => isTrue trivial
  | .array _ | .object _ => isFalse id

mutual

/-- The leaves of a value, each with the keys that lead to it. -/
def leaves : Json → List (List Text × Json)
  | .object fields => fieldLeaves fields
  | j => [([], j)]

/-- The leaves of the fields of an object. -/
def fieldLeaves : List (Text × Json) → List (List Text × Json)
  | [] => []
  | (key, value) :: more =>
    (leaves value).map (fun leaf => (key :: leaf.1, leaf.2)) ++ fieldLeaves more

end

/-- The leaves of a value under their paths. -/
def leafTable (j : Json) : Entries Json :=
  Entries.ofList ((leaves j).map fun leaf => (join ['.'] leaf.1, leaf.2))

/-- The object of one level that holds each leaf of a value under its path. -/
def flatten (j : Json) : Json := .object (leafTable j)

/-- A leaf, or an object of such values without a repeated key and without a dot in a key. -/
inductive IsPlain : Json → Prop
  | leaf {j : Json} (leaf : IsLeaf j) : IsPlain j
  | object {fields : Entries Json} (nodup : (Entries.keys fields).Nodup)
      (keys : ∀ key ∈ Entries.keys fields, '.' ∉ key)
      (values : ∀ entry ∈ fields, IsPlain entry.2) : IsPlain (.object fields)

theorem IsLeaf.leaves_eq {j : Json} (h : IsLeaf j) : leaves j = [([], j)] := by
  cases j with
  | array => exact h.elim
  | object => exact h.elim
  | _ => rfl

theorem IsLeaf.child? {j : Json} (h : IsLeaf j) (segment : Text) : j.child? segment = none := by
  cases j with
  | array => exact h.elim
  | object => exact h.elim
  | _ => rfl

theorem IsLeaf.ne_object {j : Json} (h : IsLeaf j) (fields : Entries Json) :
    j ≠ .object fields := by
  rintro rfl
  exact h

theorem mem_fieldLeaves_iff {fields : List (Text × Json)} {p : List Text} {leaf : Json} :
    (p, leaf) ∈ fieldLeaves fields ↔
      ∃ key value q, (key, value) ∈ fields ∧ p = key :: q ∧ (q, leaf) ∈ leaves value := by
  induction fields with
  | nil => simp [fieldLeaves]
  | cons entry more ih =>
    obtain ⟨key, value⟩ := entry
    rw [fieldLeaves, List.mem_append, ih, List.mem_map]
    constructor
    · rintro (⟨⟨q, _⟩, hq, he⟩ | ⟨key', value', q, hmem, hp⟩)
      · obtain ⟨rfl, rfl⟩ := Prod.mk.inj he
        exact ⟨key, value, q, List.mem_cons_self, rfl, hq⟩
      · exact ⟨key', value', q, List.mem_cons_of_mem _ hmem, hp⟩
    · rintro ⟨key', value', q, hmem, rfl, hq⟩
      rcases List.mem_cons.mp hmem with he | hmem
      · obtain ⟨rfl, rfl⟩ := Prod.mk.inj he
        exact Or.inl ⟨(q, leaf), hq, rfl⟩
      · exact Or.inr ⟨key', value', q, hmem, rfl, hq⟩

/-- The leaves of a value are the leaves that paths lead to. -/
theorem mem_leaves_iff {j : Json} (h : IsPlain j) {p : List Text} {leaf : Json} :
    (p, leaf) ∈ leaves j ↔ follow? p j = some leaf ∧ leaf.IsLeaf := by
  induction h generalizing p with
  | @leaf j hj =>
    rw [hj.leaves_eq, List.mem_singleton, Prod.mk.injEq]
    constructor
    · rintro ⟨rfl, rfl⟩
      exact ⟨rfl, hj⟩
    · rintro ⟨hp, -⟩
      cases p with
      | nil => exact ⟨rfl, (Option.some.inj hp).symm⟩
      | cons segment p =>
        rw [follow?, hj.child?] at hp
        cases hp
  | @object fields nodup keys values ih =>
    rw [leaves, mem_fieldLeaves_iff]
    constructor
    · rintro ⟨key, value, q, hmem, rfl, hq⟩
      rw [follow?, child?, (Entries.get?_eq_some_iff nodup).mpr hmem, Option.bind_some]
      exact (ih (key, value) hmem).mp hq
    · rintro ⟨hp, hleaf⟩
      cases p with
      | nil => exact absurd (Option.some.inj hp).symm (hleaf.ne_object fields)
      | cons key q =>
        obtain ⟨value, hvalue, hq⟩ := Option.bind_eq_some_iff.mp hp
        have hmem := Entries.mem_of_get? hvalue
        exact ⟨key, value, q, hmem, rfl, (ih (key, value) hmem).mpr ⟨hq, hleaf⟩⟩

theorem dot_notMem_of_mem_leaves {j : Json} (h : IsPlain j) {p : List Text} {leaf : Json}
    (hp : (p, leaf) ∈ leaves j) : ∀ segment ∈ p, '.' ∉ segment := by
  induction h generalizing p with
  | @leaf j hj =>
    rw [hj.leaves_eq, List.mem_singleton] at hp
    rw [(Prod.mk.inj hp).1]
    exact fun segment hmem => by cases hmem
  | @object fields nodup keys values ih =>
    rw [leaves, mem_fieldLeaves_iff] at hp
    obtain ⟨key, value, q, hmem, rfl, hq⟩ := hp
    intro segment hsegment
    rcases List.mem_cons.mp hsegment with rfl | hsegment
    · exact keys segment (List.mem_map.mpr ⟨_, hmem, rfl⟩)
    · exact ih (key, value) hmem hq segment hsegment

theorem IsPlain.dot_notMem_keys {fields : Entries Json} (h : IsPlain (.object fields)) :
    ∀ key ∈ Entries.keys fields, '.' ∉ key := by
  cases h with
  | leaf hleaf => exact hleaf.elim
  | object nodup keys values => exact keys

/-! ## The flat form -/

variable {fields : Entries Json} {q : Text}

theorem follow?_of_get?_leafTable (h : IsPlain (.object fields)) {v : Json}
    (hv : Entries.get? q (leafTable (.object fields)) = some v) :
    follow? (segments q) (.object fields) = some v ∧ v.IsLeaf := by
  rw [leafTable, Entries.get?_ofList] at hv
  obtain ⟨⟨p, leaf⟩, hp, he⟩ := List.mem_map.mp (Entries.mem_of_last? hv)
  obtain ⟨rfl, rfl⟩ := Prod.mk.inj he
  have hfound := (mem_leaves_iff h).mp hp
  have hne : p ≠ [] := by
    rintro rfl
    exact hfound.2.ne_object fields (Option.some.inj hfound.1).symm
  rwa [segments, splitAt_join hne (dot_notMem_of_mem_leaves h hp)]

/-- A flattened object holds a value under a path exactly if the path leads to it and it is a
leaf. -/
theorem get?_leafTable_iff (h : IsPlain (.object fields)) {v : Json} :
    Entries.get? q (leafTable (.object fields)) = some v ↔
      follow? (segments q) (.object fields) = some v ∧ v.IsLeaf := by
  refine ⟨follow?_of_get?_leafTable h, ?_⟩
  intro hv
  have hkey : q ∈ Entries.keys (leafTable (.object fields)) := by
    rw [leafTable, Entries.keys_ofList, List.mem_eraseDups, List.map_map, List.mem_map]
    exact ⟨_, (mem_leaves_iff h).mpr hv, join_splitAt '.' q⟩
  cases hget : Entries.get? q (leafTable (.object fields)) with
  | none => exact absurd hkey (Entries.get?_eq_none_iff.mp hget)
  | some w =>
    have hw := follow?_of_get?_leafTable h hget
    exact hw.1.symm.trans hv.1

/-- Where a flattened object has no field for a path, its fields do not lead there either: a first
segment may be a field, but a leaf is behind it. -/
theorem follow?_flatten (h : IsPlain (.object fields))
    (hget : Entries.get? q (leafTable (.object fields)) = none) :
    follow? (segments q) (flatten (.object fields)) = none := by
  obtain ⟨segment, more, hsegments⟩ := List.exists_cons_of_ne_nil (segments_ne_nil q)
  rw [hsegments, flatten, follow?, child?]
  cases hfirst : Entries.get? segment (leafTable (.object fields)) with
  | none => rfl
  | some leaf =>
    cases more with
    | nil =>
      have hq := join_splitAt '.' q
      rw [← segments, hsegments, join] at hq
      rw [← hq, hfirst] at hget
      cases hget
    | cons next more =>
      rw [Option.bind_some, follow?, (follow?_of_get?_leafTable h hfirst).2.child?]
      rfl

/-- A path that leads to a leaf or to nothing leads to the same in the flat form. -/
theorem resolve?_flatten (h : IsPlain (.object fields))
    (hq : ∀ v ∈ resolve? q (.object fields), v.IsLeaf) :
    resolve? q (flatten (.object fields)) = resolve? q (.object fields) := by
  by_cases hnil : q = []
  · rw [flatten, resolve?, resolve?, if_pos hnil, if_pos hnil]
  have hnested := resolve?_eq_follow? h.dot_notMem_keys hnil
  cases hget : Entries.get? q (leafTable (.object fields)) with
  | some v =>
    rw [hnested, (follow?_of_get?_leafTable h hget).1, flatten, resolve?, if_neg hnil, hget]
    rfl
  | none =>
    have hflat : resolve? q (flatten (.object fields)) = none := by
      have hfollow := follow?_flatten h hget
      rw [flatten] at hfollow ⊢
      rw [resolve?, if_neg hnil, hget, hfollow]
      rfl
    rw [hflat]
    cases hv : resolve? q (.object fields) with
    | none => rfl
    | some v =>
      -- a leaf that is read stands in the flat form as well
      have hleaf := hq v hv
      rw [hnested] at hv
      obtain ⟨w, hfollow, hw⟩ := Option.bind_eq_some_iff.mp hv
      cases w with
      | null => cases hw
      | _ =>
        obtain rfl := Option.some.inj hw
        rw [(get?_leafTable_iff h).mpr ⟨hfollow, hleaf⟩] at hget
        cases hget

/-- **Flat and nested metadata.** Take an object without arrays, at any depth, whose keys have no
dots, and its flat form. A path that leads to a leaf of the object or to nothing leads to the same
in the flat form. So a template whose paths are all of this kind is rendered alike against both:
with the same result, calls and reports, and the same memory. -/
theorem flatten_agrees (h : IsPlain (.object fields)) :
    (∀ q, (∀ v ∈ resolve? q (.object fields), v.IsLeaf) →
      resolve? q (flatten (.object fields)) = resolve? q (.object fields)) ∧
    ∀ {σ : Type} (e : Engine σ) (template : Template) (memory : σ),
      (∀ token ∈ template.tokens, ∀ v ∈ resolve? token.path (.object fields), v.IsLeaf) →
      e.render template (flatten (.object fields)) memory =
        e.render template (.object fields) memory := by
  refine ⟨fun q hq => resolve?_flatten h hq, ?_⟩
  intro σ e template memory hpaths
  apply e.render_congr
  intro token hmem
  rw [Engine.select, Engine.select, resolve?_flatten h (hpaths token hmem)]

/-- Empty keys, a null, an empty object, and a path through a scalar. -/
theorem flatten_agrees_empty_keys :
    let nested : Entries Json := [([], .object [([], .string ['x']), (['n'], .null)]),
      (['a'], .bool true), (['e'], .object [])]
    let template := Template.parse {} "<<@.@>> <<@.n@>>[(y)] <<@a->f@>> <<@a.b@>>".toList
    let lax : Engine Unit := { listener := some [] }
    IsPlain (.object nested) ∧
      Entries.keys (leafTable (.object nested)) = [['.'], ".n".toList, ['a']] ∧
      resolve? ".n".toList (flatten (.object nested)) = none ∧
      (∀ token ∈ template.tokens, ∀ v ∈ resolve? token.path (.object nested), v.IsLeaf) ∧
      (lax.render template (.object nested) ()).result = .ok "x y true ".toList ∧
      lax.render template (flatten (.object nested)) () =
        lax.render template (.object nested) () := by
  intro nested template lax
  have hinner : IsPlain (.object [([], .string ['x']), (['n'], .null)]) := by
    refine .object (by decide) (by decide) ?_
    simp only [List.forall_mem_cons, List.not_mem_nil, false_implies, implies_true, and_true]
    exact ⟨.leaf trivial, .leaf trivial⟩
  have hplain : IsPlain (.object nested) := by
    refine .object (by decide) (by decide) ?_
    simp only [nested, List.forall_mem_cons, List.not_mem_nil, false_implies, implies_true,
      and_true]
    exact ⟨hinner, .leaf trivial, .object (by decide) (by decide) (by simp)⟩
  have hpaths : ∀ token ∈ template.tokens,
      ∀ v ∈ resolve? token.path (.object nested), v.IsLeaf := by decide +kernel
  obtain ⟨hread, hrender⟩ := flatten_agrees hplain
  refine ⟨hplain, by decide, ?_, hpaths, by decide +kernel, hrender lax template () hpaths⟩
  exact hread ".n".toList (by decide)

end Json

end Stencil
