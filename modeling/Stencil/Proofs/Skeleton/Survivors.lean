import Stencil.Skeleton
import Stencil.Proofs.Json.Assignment
import Mathlib.Data.List.Induction

/-!
# What survives in a skeleton

The skeleton of a template is written placeholder by placeholder. A later path overwrites an earlier
one not only where the two are equal: a leaf that is written on the way to an object destroys it,
and so does an object that is written on the way to a leaf. Two paths touch each other in this way
exactly if the segments of one continue those of the other.

* `Json.IsTree`: an object tree with text leaves and without a dot in a key.
* `Json.Branches.assign`: writing a text keeps the tree.
* `Json.resolve?_assign_of_not_comparable`: a path that is not touched keeps what it has.
* `Template.skeleton_survivors`: a path leads to a text exactly if the last placeholder that touches
  it has this path, and then to its fallback text. Placeholders without a path are never written.
-/

namespace Stencil

namespace Json

/-! ## Trees -/

/-- A text, or an object that is not empty, has no dot in a key and has such trees as fields. -/
inductive IsTree : Json → Prop
  | string (t : Text) : IsTree (.string t)
  | object {fields : Entries Json} (ne : fields ≠ []) (keys : ∀ entry ∈ fields, '.' ∉ entry.1)
      (values : ∀ entry ∈ fields, IsTree entry.2) : IsTree (.object fields)

/-- The fields of a tree. -/
structure Branches (fields : Entries Json) : Prop where
  keys : ∀ entry ∈ fields, '.' ∉ entry.1
  values : ∀ entry ∈ fields, IsTree entry.2

namespace Branches

variable {fields : Entries Json} {key : Text} {value : Json}

theorem nil : Branches [] := ⟨by simp, by simp⟩

theorem insert (h : Branches fields) (hkey : '.' ∉ key) (hvalue : IsTree value) :
    Branches (Entries.insert key value fields) := by
  constructor
  · intro entry hentry
    rcases Entries.mem_of_mem_insert hentry with rfl | hentry
    · exact hkey
    · exact h.keys entry hentry
  · intro entry hentry
    rcases Entries.mem_of_mem_insert hentry with rfl | hentry
    · exact hvalue
    · exact h.values entry hentry

theorem isTree_insert (h : Branches fields) (hkey : '.' ∉ key) (hvalue : IsTree value) :
    IsTree (.object (Entries.insert key value fields)) := by
  have hne : Entries.insert key value fields ≠ [] := by
    intro he
    have hget := Entries.get?_insert_self key value fields
    rw [he] at hget
    cases hget
  exact .object hne (h.insert hkey hvalue).keys (h.insert hkey hvalue).values

theorem dot_notMem_keys (h : Branches fields) : ∀ key ∈ Entries.keys fields, '.' ∉ key := by
  intro key hkey
  obtain ⟨entry, hentry, rfl⟩ := List.mem_map.mp hkey
  exact h.keys entry hentry

end Branches

theorem IsTree.branches_fields {j : Json} (h : IsTree j) : Branches j.fields := by
  cases h with
  | string t => exact Branches.nil
  | object ne keys values => exact ⟨keys, values⟩

theorem IsTree.put {value : Json} (hvalue : IsTree value) (p : List Text)
    (hp : ∀ segment ∈ p, '.' ∉ segment) {j : Json} (hj : Branches j.fields) :
    IsTree (put value p j) := by
  induction p generalizing j with
  | nil => exact hvalue
  | cons segment p ih =>
    apply hj.isTree_insert (hp segment List.mem_cons_self)
    apply ih fun other hother => hp other (List.mem_cons_of_mem _ hother)
    cases hs : Entries.get? segment j.fields with
    | none => exact Branches.nil
    | some inner => exact (hj.values _ (Entries.mem_of_get? hs)).branches_fields

/-- A tree has no arrays. -/
theorem IsTree.ne_array {j : Json} (h : IsTree j) (items : List Json) : j ≠ .array items := by
  rintro rfl
  cases h

theorem IsTree.ne_null {j : Json} (h : IsTree j) : j ≠ .null := by
  rintro rfl
  cases h

theorem Branches.isTree_follow? {fields : Entries Json} (h : Branches fields) {p : List Text}
    (hp : p ≠ []) {j : Json} (hj : follow? p (.object fields) = some j) : IsTree j := by
  induction p generalizing fields with
  | nil => exact absurd rfl hp
  | cons segment p ih =>
    obtain ⟨inner, hinner, hj⟩ := Option.bind_eq_some_iff.mp hj
    have htree : IsTree inner := h.values _ (Entries.mem_of_get? hinner)
    cases p with
    | nil =>
      cases hj
      exact htree
    | cons next p =>
      cases htree with
      | string t => cases hj
      | object ne keys values => exact ih ⟨keys, values⟩ (List.cons_ne_nil _ _) hj

/-- In a tree, a path is followed segment by segment. -/
theorem Branches.resolve?_eq {fields : Entries Json} (h : Branches fields) {path : Text}
    (hpath : path ≠ []) :
    resolve? path (.object fields) = follow? (segments path) (.object fields) := by
  rw [resolve?_eq_follow? h.dot_notMem_keys hpath]
  cases hj : follow? (segments path) (.object fields) with
  | none => rfl
  | some j =>
    have hne := (h.isTree_follow? (segments_ne_nil path) hj).ne_null
    cases j with
    | null => exact absurd rfl hne
    | _ => rfl

/-! ## Writing a text -/

section

variable {fields : Entries Json} {path : Text}

/-- Writing a text keeps the tree. -/
theorem Branches.assign (h : Branches fields) (path t : Text) :
    ∃ written, assign (.object fields) path (.string t) = .object written ∧ Branches written := by
  by_cases hpath : path = []
  · exact ⟨fields, by rw [Json.assign, if_pos hpath], h⟩
  · have htree : IsTree (Json.assign (.object fields) path (.string t)) := by
      rw [assign_eq_put hpath]
      exact (IsTree.string t).put _ (fun _ => dot_notMem_of_mem_segments) h
    obtain ⟨segment, more, hs⟩ := List.exists_cons_of_ne_nil (segments_ne_nil path)
    rw [assign_eq_put hpath, hs, put] at htree ⊢
    exact ⟨_, rfl, htree.branches_fields⟩

theorem resolve?_assign_self (h : Branches fields) (hpath : path ≠ []) (t : Text) :
    resolve? path (assign (.object fields) path (.string t)) = some (.string t) := by
  obtain ⟨written, hwritten, hbranches⟩ := h.assign path t
  rw [hwritten, hbranches.resolve?_eq hpath, ← hwritten, assign_eq_put hpath, follow?_put_self]

/-- Where the written path is touched but not met, no text is left: on the way to the written text
stand objects, and behind it stands nothing. -/
theorem resolve?_assign_of_comparable (h : Branches fields) {p : Text} (hpath : path ≠ [])
    (hp : p ≠ []) (hne : path ≠ p) (hc : Comparable path p) (t s : Text) :
    resolve? p (assign (.object fields) path (.string t)) ≠ some (.string s) := by
  obtain ⟨written, hwritten, hbranches⟩ := h.assign path t
  rw [hwritten, hbranches.resolve?_eq hp, ← hwritten, assign_eq_put hpath]
  rcases hc with ⟨more, hmore⟩ | ⟨more, hmore⟩
  · rw [← hmore, follow?_append, follow?_put_self, Option.bind_some]
    cases more with
    | nil => exact absurd (segments_injective (by rwa [List.append_nil] at hmore)) hne
    | cons segment more => exact fun he => by cases he
  · obtain ⟨inner, hinner⟩ := follow?_put_append (.string t) (segments p) more (.object fields)
    rw [← hmore, hinner]
    cases more with
    | nil => exact absurd (segments_injective (by rwa [List.append_nil] at hmore)).symm hne
    | cons segment more => exact fun he => by cases he

/-- A path that is not touched keeps what it has. -/
theorem resolve?_assign_of_not_comparable (h : Branches fields) {p : Text} (hpath : path ≠ [])
    (hp : p ≠ []) (hc : ¬ Comparable path p) (t : Text) :
    resolve? p (assign (.object fields) path (.string t)) = resolve? p (.object fields) := by
  obtain ⟨written, hwritten, hbranches⟩ := h.assign path t
  obtain ⟨common, x, a, y, b, hxy, hx, hy⟩ := exists_diverge_of_not_comparable hc
  rw [hwritten, hbranches.resolve?_eq hp, ← hwritten, h.resolve?_eq hp, assign_eq_put hpath, hx, hy]
  apply follow?_put_of_diverge hxy
  intro q _ items hq
  cases q with
  | nil => cases hq
  | cons segment q => exact (h.isTree_follow? (List.cons_ne_nil _ _) hq).ne_array items rfl

end

end Json

/-! ## Skeletons -/

namespace Template

open Json

/-- The last token whose path touches a path. -/
def lastAt? (p : Text) (tokens : List Token) : Option Token :=
  (tokens.filter fun token => Comparable token.path p).getLast?

theorem lastAt?_append (p : Text) (tokens : List Token) (token : Token) :
    lastAt? p (tokens ++ [token]) =
      if Comparable token.path p then some token else lastAt? p tokens := by
  rw [lastAt?, lastAt?, List.filter_append, List.filter_cons, List.filter_nil]
  by_cases h : Comparable token.path p <;> simp [h]

/-- The tokens that write to a skeleton: those with a path. -/
def written (tokens : List Token) : List Token := tokens.filter fun token => token.path ≠ []

theorem written_append (tokens : List Token) (token : Token) :
    written (tokens ++ [token]) =
      if token.path = [] then written tokens else written tokens ++ [token] := by
  rw [written, written, List.filter_append, List.filter_cons, List.filter_nil]
  by_cases h : token.path = [] <;> simp [h]

theorem sketch_of_path_eq_nil {fields : Entries Json} {p : Placeholder} (h : p.path = []) :
    sketch (.object fields) p = .object fields := by
  rw [sketch, h, assign, if_pos rfl]

/-- What one placeholder does to a path: it decides about it if it touches it. -/
theorem resolve?_sketch_iff {fields : Entries Json} (h : Branches fields) (token : Placeholder)
    {p : Text} (hp : p ≠ []) (s : Text) :
    resolve? p (sketch (.object fields) token) = some (.string s) ↔
      if token.path ≠ [] ∧ Comparable token.path p then token.path = p ∧ token.fallbackText = s
      else resolve? p (.object fields) = some (.string s) := by
  by_cases hpath : token.path = []
  · rw [sketch_of_path_eq_nil hpath, if_neg fun hc => hc.1 hpath]
  rw [sketch]
  by_cases hc : Comparable token.path p
  · rw [if_pos ⟨hpath, hc⟩]
    by_cases he : token.path = p
    · subst he
      rw [resolve?_assign_self h hpath, Option.some.injEq, Json.string.injEq]
      exact (and_iff_right rfl).symm
    · have hnot := resolve?_assign_of_comparable h hpath hp he hc token.fallbackText s
      exact ⟨fun hs => absurd hs hnot, fun hs => absurd hs.1 he⟩
  · rw [if_neg fun hand => hc hand.2, resolve?_assign_of_not_comparable h hpath hp hc]

/-- **What a skeleton holds.** A path leads to a text exactly if the last token that touches it has
this very path, and to the fallback text of that token. -/
theorem skeleton_survivors (template : Template) :
    (∀ p ≠ [], ∀ s, resolve? p template.skeleton = some (.string s) ↔
      ∃ token, lastAt? p (written template.tokens) = some token ∧
        token.path = p ∧ token.fallbackText = s) ∧
    ∃ fields, template.skeleton = .object fields ∧ Branches fields := by
  obtain ⟨source, tokens⟩ := template
  rw [skeleton]
  -- Tokens are written in source order, so the induction takes off the last one.
  induction tokens using List.reverseRecOn with
  | nil =>
    refine ⟨?_, [], rfl, Branches.nil⟩
    intro p hp s
    have hnone : follow? (segments p) (.object []) = none := by
      obtain ⟨segment, more, hs⟩ := List.exists_cons_of_ne_nil (segments_ne_nil p)
      rw [hs]
      exact follow?_empty [] segment more
    rw [List.foldl_nil, Branches.nil.resolve?_eq hp, hnone]
    constructor
    · exact fun h => by cases h
    · rintro ⟨token, h, -⟩
      cases h
  | append_singleton tokens token ih =>
    obtain ⟨hsurvivors, fields, hfields, hbranches⟩ := ih
    rw [List.foldl_append, List.foldl_cons, List.foldl_nil, hfields]
    refine ⟨?_, hbranches.assign _ _⟩
    intro p hp s
    rw [resolve?_sketch_iff hbranches token.toPlaceholder hp, ← hfields, hsurvivors p hp s,
      written_append]
    by_cases hpath : token.path = []
    · rw [if_pos hpath, if_neg fun h => h.1 hpath]
    rw [if_neg hpath, lastAt?_append]
    by_cases hc : Comparable token.path p
    · rw [if_pos ⟨hpath, hc⟩, if_pos hc]
      constructor
      · exact fun h => ⟨token, rfl, h⟩
      · rintro ⟨_, he, h⟩
        obtain rfl := Option.some.inj he
        exact h
    · rw [if_neg fun h => hc h.2, if_neg hc]

/-- Of three tokens that touch each other, only the last one leaves a text. -/
theorem skeleton_overwritten :
    let skeleton := (parse {} "<<@a.b@>>[(x)]<<@a@>>[(y)]<<@a.c@>>[(z)]".toList).skeleton
    resolve? "a.c".toList skeleton = some (.string ['z']) ∧
      resolve? "a.b".toList skeleton ≠ some (.string ['x']) := by
  have h := (skeleton_survivors (parse {} "<<@a.b@>>[(x)]<<@a@>>[(y)]<<@a.c@>>[(z)]".toList)).1
  constructor
  · rw [h _ (by decide)]
    decide +kernel
  · rw [Ne, h _ (by decide)]
    decide +kernel

/-- A token without a path touches every path that begins with a dot, but it is not written: it may
not count as the last one. -/
theorem skeleton_beside_empty_path :
    let template := parse {} "<<@.a@>><<@@>><<@.b@>>".toList
    ¬ (resolve? ".a".toList template.skeleton = some (.string []) ↔
      ∃ token, lastAt? ".a".toList template.tokens = some token ∧
        token.path = ".a".toList ∧ token.fallbackText = []) := by
  intro template hiff
  have htokens : template.tokens.map Token.toPlaceholder =
      [⟨none, ".a".toList, [], none⟩, ⟨none, [], [], none⟩, ⟨none, ".b".toList, [], none⟩] := by
    decide +kernel
  have hskeleton : resolve? ".a".toList template.skeleton = some (.string []) := by
    rw [skeleton, ← List.foldl_map, htokens]
    rfl
  obtain ⟨token, hlast, hpath, -⟩ := hiff.mp hskeleton
  have hempty : (lastAt? ".a".toList template.tokens).map (·.path) = some [] := by decide +kernel
  rw [hlast, Option.map_some, hpath] at hempty
  exact absurd hempty (by decide)

end Template

end Stencil
