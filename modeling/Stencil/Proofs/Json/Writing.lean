import Stencil.Proofs.Entries.Pairs
import Stencil.Proofs.Json.Assignment
import Mathlib.Data.List.Infix

/-!
# Writing at two places

What an assignment does to a value that is written or read elsewhere. At the path of an earlier
assignment it takes the place of that one, as if it had never been made. At a path apart from it the
two do not notice each other: what is read there stays, and the order of the two shows only in the
order of keys.

* `assign_again`: reading and writing at the path of an assignment.
* `SameUpToOrder`: equality up to the order of keys, at every depth.
* `assign_apart`: reading and writing at a path apart from it, and the keys on the way.
-/

namespace Stencil.Json

/-! ## The root -/

section

variable {fields : Entries Json} {path : Text} {segment : Text} {more : List Text}

/-- An assignment writes one field of the root. -/
theorem assign_object (hpath : path ≠ []) (hsegments : segments path = segment :: more)
    (value : Json) :
    assign (.object fields) path value =
      .object (Entries.insert segment
        (put value more ((Entries.get? segment fields).getD (.object []))) fields) := by
  rw [assign_eq_put hpath, hsegments, put, Json.fields]

theorem dot_notMem_of_segments (hsegments : segments path = segment :: more) : '.' ∉ segment := by
  apply dot_notMem_of_mem_segments (p := path)
  rw [hsegments]
  exact List.mem_cons_self

/-- Two assignments, as writing behind segments. -/
theorem assign_assign {other : Text} (hpath : path ≠ []) (hother : other ≠ [])
    (value value' : Json) :
    assign (assign (.object fields) path value) other value' =
      put value' (segments other) (put value (segments path) (.object fields)) := by
  obtain ⟨segment, more, hsegments⟩ := List.exists_cons_of_ne_nil (segments_ne_nil path)
  rw [assign_object hpath hsegments, assign_eq_put hother, ← assign_object hpath hsegments,
    assign_eq_put hpath]

end

/-! ## The same place -/

theorem put_put_self (value other : Json) (p : List Text) (j : Json) :
    put other p (put value p j) = put other p j := by
  induction p generalizing j with
  | nil => rfl
  | cons segment p ih =>
    rw [put, put, put, Json.fields, Entries.get?_insert_self, Option.getD_some, ih,
      Entries.insert_insert_self]

/-- A written value is read back, unless the path is the key of another value in the root. -/
theorem resolve?_assign {fields : Entries Json} {path : Text} (hpath : path ≠ [])
    (h : '.' ∈ path → path ∉ Entries.keys fields) (value : Json) :
    resolve? path (assign (.object fields) path value) = value.present? := by
  obtain ⟨segment, more, hsegments⟩ := List.exists_cons_of_ne_nil (segments_ne_nil path)
  have hkeys : '.' ∈ path → path ∉ Entries.keys (Entries.insert segment
      (put value more ((Entries.get? segment fields).getD (.object []))) fields) := by
    intro hdot hmem
    rw [Entries.keys_insert] at hmem
    split at hmem
    · exact h hdot hmem
    · rcases List.mem_append.mp hmem with hmem | hmem
      · exact h hdot hmem
      · rw [List.mem_singleton.mp hmem] at hdot
        exact dot_notMem_of_segments hsegments hdot
  have hresolve := resolve?_eq_follow?_of_notMem hpath hkeys
  rw [← assign_object hpath hsegments] at hresolve
  rw [hresolve, assign_eq_put hpath, follow?_put_self, Option.bind_some]

/-- **Assigning at the path of an assignment.** A written value is read back, and null is read as
nothing; only a key of the root that is the whole path, with its dots, may hide it. A second
assignment leaves nothing of the first one, not even in the order of keys. The empty path, and a
value that is no object, are not written to. -/
theorem assign_again :
    (∀ (fields : Entries Json) (path : Text) (value other : Json), path ≠ [] →
      (('.' ∈ path → path ∉ Entries.keys fields) →
        (value ≠ .null → resolve? path (assign (.object fields) path value) = some value) ∧
        (value = .null → resolve? path (assign (.object fields) path value) = none)) ∧
      assign (assign (.object fields) path value) path other =
        assign (.object fields) path other) ∧
    ∀ (j : Json) (path : Text) (value : Json),
      (path = [] ∨ ∀ fields, j ≠ .object fields) → assign j path value = j := by
  constructor
  · intro fields path value other hpath
    constructor
    · intro hkeys
      rw [resolve?_assign hpath hkeys]
      constructor
      · intro hvalue
        cases value with
        | null => exact absurd rfl hvalue
        | _ => rfl
      · rintro rfl
        rfl
    · rw [assign_assign hpath hpath, put_put_self, assign_eq_put hpath]
  · rintro j path value (rfl | hj)
    · cases j <;> rfl
    · cases j with
      | object fields => exact absurd rfl (hj fields)
      | _ => rfl

/-- A path with an empty segment, through a list, beside a key that is only a part of the path. -/
theorem assign_again_empty_segment :
    let fields : Entries Json := [("a.".toList, .bool true), ("a".toList, .array [.null])]
    "a..b".toList ∉ Entries.keys fields ∧
      resolve? "a..b".toList (assign (.object fields) "a..b".toList (.string ['x'])) =
        some (.string ['x']) ∧
      resolve? "a..b".toList (assign (.object fields) "a..b".toList .null) = none ∧
      assign (assign (.object fields) "a..b".toList (.string ['x'])) "a..b".toList .null =
        assign (.object fields) "a..b".toList .null ∧
      assign (.object fields) [] .null = .object fields ∧
      assign (.array [.null]) "a..b".toList .null = .array [.null] := by
  intro fields
  have hkey : "a..b".toList ∉ Entries.keys fields := by decide
  obtain ⟨h, hskipped⟩ := assign_again
  obtain ⟨hread, hwrite⟩ := h fields "a..b".toList (.string ['x']) .null (by decide)
  obtain ⟨hnull, -⟩ := h fields "a..b".toList .null .null (by decide)
  refine ⟨hkey, (hread fun _ => hkey).1 ?_, (hnull fun _ => hkey).2 rfl, hwrite, ?_, ?_⟩
  · exact fun he => by cases he
  · exact hskipped _ _ _ (Or.inl rfl)
  · exact hskipped _ _ _ (Or.inr fun _ he => by cases he)

/-! ## Equality up to the order of keys -/

/-- The same value up to the order of the keys of its objects, at every depth: the fields of an
object may be put in another order, and their values are again the same in this sense. -/
inductive SameUpToOrder : Json → Json → Prop
  | refl (j : Json) : SameUpToOrder j j
  | array {items items' : List Json} (each : List.Forall₂ SameUpToOrder items items') :
      SameUpToOrder (.array items) (.array items')
  | object {fields reordered fields' : Entries Json} (order : List.Perm fields reordered)
      (keys : Entries.keys reordered = Entries.keys fields')
      (values : List.Forall₂ SameUpToOrder (reordered.map Prod.snd) (fields'.map Prod.snd)) :
      SameUpToOrder (.object fields) (.object fields')

theorem SameUpToOrder.of_perm {fields fields' : Entries Json} (h : List.Perm fields fields') :
    SameUpToOrder (.object fields) (.object fields') :=
  .object h rfl (List.forall₂_same.mpr fun j _ => .refl j)

theorem SameUpToOrder.insert {j j' : Json} (h : SameUpToOrder j j') (key : Text)
    (table : Entries Json) : SameUpToOrder (.object (Entries.insert key j table))
      (.object (Entries.insert key j' table)) := by
  obtain ⟨front, back, hinsert⟩ := Entries.exists_insert key table
  rw [hinsert, hinsert]
  refine .object (List.Perm.refl _) ?_ ?_
  · simp [Entries.keys]
  · have hsame : ∀ l : List Json, List.Forall₂ SameUpToOrder l l :=
      fun l => List.forall₂_same.mpr fun j _ => .refl j
    rw [List.map_append, List.map_append]
    exact List.rel_append (hsame _) (.cons h (hsame _))

/-! ## Places apart -/

/-- The value behind several segments, each of which must be a field of an object. -/
def fieldAt? : List Text → Json → Option Json
  | [], j => some j
  | segment :: more, j => (Entries.get? segment j.fields).bind (fieldAt? more)

/-- Without an array on the way, following a path is going from field to field. -/
theorem follow?_eq_fieldAt? {p : List Text} {j : Json}
    (h : ∀ r next rest, p = r ++ next :: rest → ∀ items, fieldAt? r j ≠ some (.array items)) :
    follow? p j = fieldAt? p j := by
  induction p generalizing j with
  | nil => rfl
  | cons segment p ih =>
    have hj : ∀ items, j ≠ .array items := by
      rintro items rfl
      exact h [] segment p rfl items rfl
    rw [follow?, fieldAt?, child?_eq_get? hj]
    cases hs : Entries.get? segment j.fields with
    | none => rfl
    | some inner =>
      rw [Option.bind_some, Option.bind_some]
      apply ih
      intro r next rest hp items hr
      apply h (segment :: r) next rest (congrArg (segment :: ·) hp) items
      rw [fieldAt?, hs, Option.bind_some, hr]

/-- An object on the way to the written value keeps its keys; one may be new. -/
theorem fieldAt?_put (value : Json) (r : List Text) (next : Text) (rest : List Text) {j : Json}
    {inner : Entries Json} (h : fieldAt? r j = some (.object inner)) :
    ∃ inner', fieldAt? r (put value (r ++ next :: rest) j) = some (.object inner') ∧
      Entries.keys inner' =
        if next ∈ Entries.keys inner then Entries.keys inner else Entries.keys inner ++ [next] := by
  induction r generalizing j with
  | nil =>
    obtain rfl := Option.some.inj h
    exact ⟨_, rfl, Entries.keys_insert _ _ _⟩
  | cons segment r ih =>
    obtain ⟨found, hfound, hinner⟩ := Option.bind_eq_some_iff.mp h
    rw [List.cons_append, put, hfound, Option.getD_some, fieldAt?, Json.fields,
      Entries.get?_insert_self, Option.bind_some]
    exact ih hinner

/-- Values written at places apart do not notice each other. -/
theorem put_put_of_diverge {x y : Text} (hne : x ≠ y) (value other : Json) (common a b : List Text)
    (j : Json) :
    SameUpToOrder (put other (common ++ y :: b) (put value (common ++ x :: a) j))
      (put value (common ++ x :: a) (put other (common ++ y :: b) j)) := by
  induction common generalizing j with
  | nil =>
    rw [List.nil_append, List.nil_append, put, put, put, put, Json.fields, Json.fields,
      Entries.get?_insert_of_ne _ _ hne, Entries.get?_insert_of_ne _ _ hne.symm]
    exact .of_perm (Entries.insert_insert_perm hne.symm _ _ _)
  | cons segment common ih =>
    rw [List.cons_append, List.cons_append, put, put, put, put, Json.fields, Json.fields,
      Entries.get?_insert_self, Entries.get?_insert_self, Option.getD_some, Option.getD_some,
      Entries.insert_insert_self, Entries.insert_insert_self]
    exact (ih _).insert segment _

section

variable {fields : Entries Json} {p q : Text}

/-- A field of the root that is no segment of the path is not written to. -/
theorem get?_assign_of_not_comparable (hp : p ≠ []) (h : ¬ Comparable p q) (value : Json) :
    Entries.get? q (assign (.object fields) p value).fields = Entries.get? q fields := by
  obtain ⟨segment, more, hsegments⟩ := List.exists_cons_of_ne_nil (segments_ne_nil p)
  have hne : q ≠ segment := by
    rintro rfl
    have hq : segments q = [q] := Text.splitAt_of_notMem (dot_notMem_of_segments hsegments)
    apply h
    rw [Comparable, hq, hsegments]
    exact Or.inr ⟨more, rfl⟩
  rw [assign_object hp hsegments, Json.fields, Entries.get?_insert_of_ne _ _ hne]

/-- **Assigning at a path apart.** Take two paths of which neither continues the other. If no array
stands on the way to the first one, then an assignment there does not change what is read at the
second one. In any case the objects on the way keep their keys in order, and only the next segment
may be a new key, at the end; and assignments at both paths give the same value in either order, up
to the order of keys. -/
theorem assign_apart (hp : p ≠ []) (hq : q ≠ []) (h : ¬ Comparable p q) (value other : Json) :
    ((∀ r next rest, segments p = r ++ next :: rest →
        ∀ items, fieldAt? r (.object fields) ≠ some (.array items)) →
      resolve? q (assign (.object fields) p value) = resolve? q (.object fields)) ∧
    (∀ r next rest, segments p = r ++ next :: rest →
      ∀ inner, fieldAt? r (.object fields) = some (.object inner) →
        ∃ inner', fieldAt? r (assign (.object fields) p value) = some (.object inner') ∧
          Entries.keys inner' =
            if next ∈ Entries.keys inner then Entries.keys inner
            else Entries.keys inner ++ [next]) ∧
    SameUpToOrder (assign (assign (.object fields) p value) q other)
      (assign (assign (.object fields) q other) p value) := by
  obtain ⟨common, x, a, y, b, hne, hx, hy⟩ := exists_diverge_of_not_comparable h
  obtain ⟨segment, more, hsegments⟩ := List.exists_cons_of_ne_nil (segments_ne_nil p)
  refine ⟨?_, ?_, ?_⟩
  · intro harray
    have hfollow : follow? (segments q) (assign (.object fields) p value) =
        follow? (segments q) (.object fields) := by
      rw [assign_eq_put hp, hx, hy]
      apply follow?_put_of_diverge hne
      rintro r ⟨rest, rfl⟩ items hr
      rw [follow?_eq_fieldAt?] at hr
      · cases rest with
        | nil => exact harray r x a (by rw [hx, List.append_nil]) items hr
        | cons next rest => exact harray r next (rest ++ x :: a) (by simp [hx]) items hr
      · rintro r' next rest' rfl
        exact harray r' next (rest' ++ rest ++ x :: a) (by simp [hx])
    have hget : Entries.get? q (assign (.object fields) p value).fields = Entries.get? q fields :=
      get?_assign_of_not_comparable hp h value
    rw [assign_object hp hsegments] at hfollow hget ⊢
    rw [Json.fields] at hget
    rw [resolve?, resolve?, hget, hfollow]
  · intro r next rest hr inner hinner
    rw [assign_eq_put hp, hr]
    exact fieldAt?_put value r next rest hinner
  · rw [assign_assign hp hq, assign_assign hq hp, hx, hy]
    exact put_put_of_diverge hne value other common a b (.object fields)

end

/-- The paths part below the root, a text on the way of the first one is replaced, and the second
one is hidden by a key of the root. -/
theorem assign_apart_hidden :
    let inner : Entries Json := [("x".toList, .null), ("b".toList, .string "old".toList)]
    let fields : Entries Json := [("a".toList, .object inner), ("a.d".toList, .bool true)]
    let written := assign (.object fields) "a.b.c".toList .null
    ¬ Comparable "a.b.c".toList "a.d".toList ∧
      (∀ r next rest, segments "a.b.c".toList = r ++ next :: rest →
        ∀ items, fieldAt? r (.object fields) ≠ some (.array items)) ∧
      resolve? "a.d".toList written = resolve? "a.d".toList (.object fields) ∧
      (∃ inner', fieldAt? ["a".toList] written = some (.object inner') ∧
        Entries.keys inner' = ["x".toList, "b".toList]) ∧
      SameUpToOrder (assign written "a.d".toList (.string "new".toList))
        (assign (assign (.object fields) "a.d".toList (.string "new".toList))
          "a.b.c".toList .null) := by
  intro inner fields written
  have hapart : ¬ Comparable "a.b.c".toList "a.d".toList := by decide
  have harray : ∀ r next rest, segments "a.b.c".toList = r ++ next :: rest →
      ∀ items, fieldAt? r (.object fields) ≠ some (.array items) := by
    intro r next rest hr items he
    have hmem : r ∈ (segments "a.b.c".toList).inits :=
      (List.mem_inits _ _).mpr ⟨next :: rest, hr.symm⟩
    have hinits : (segments "a.b.c".toList).inits =
        [[], ["a".toList], ["a".toList, "b".toList],
          ["a".toList, "b".toList, "c".toList]] := by decide
    simp only [hinits, List.mem_cons, List.not_mem_nil, or_false] at hmem
    rcases hmem with rfl | rfl | rfl | rfl
    all_goals cases he
  obtain ⟨hread, hkeys, horder⟩ :=
    @assign_apart fields _ _ (by decide) (by decide) hapart .null (.string "new".toList)
  refine ⟨hapart, harray, hread harray, ?_, horder⟩
  exact hkeys ["a".toList] "b".toList ["c".toList] (by decide) inner rfl

end Stencil.Json
