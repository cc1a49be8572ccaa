import Stencil.Jinja.Rendering
import Stencil.Transform
import Stencil.Proofs.Jinja.Reading
import Stencil.Proofs.Json.Assignment
import Mathlib.Data.List.Basic

/-!
# Values of written expressions

What a dotted path and its filters are worth in a context. A path is followed item by item, which
comes to `Json.follow?` as long as only objects are on the way; the `default` filter replaces what
was not found; and the filters without arguments are the functions that every registry has.

* `Value.item_ofJson`: an item of an object.
* `value_ofPath`: a path in a context.
* `value_default_of_string`, `value_default_of_undefined`, `value_builtIn`: single filters.
-/

namespace Stencil.Jinja

open Json (follow?)

/-! ## Tables -/

namespace Value

theorem textOrder_eq_iff {s t : Text} : textOrder s t = .eq ↔ s = t := by
  rw [textOrder, Std.compare_eq_iff_eq]
  constructor
  · intro h
    exact List.map_injective_iff.mpr (fun _ _ => Char.toNat_inj.mp) h
  · rintro rfl
    rfl

theorem find?_ofFields (key : Text) (fields : Entries Json) :
    find? (.string key) (ofFields fields) = (Entries.get? key fields).map ofJson := by
  induction fields with
  | nil => rfl
  | cons entry more ih =>
    obtain ⟨k, j⟩ := entry
    rw [find?] at ih
    rw [ofFields, find?, Entries.get?]
    by_cases hk : k = key
    · have horder : order (.string k) (.string key) = .eq := textOrder_eq_iff.mpr hk
      rw [if_pos hk, List.find?_cons_of_pos (by simp [horder])]
      rfl
    · have horder : order (.string k) (.string key) ≠ .eq := fun h => hk (textOrder_eq_iff.mp h)
      rw [if_neg hk, List.find?_cons_of_neg (by simpa using horder), ih]

/-- What was found, or an undefined value. -/
def ofFound (found : Option Json) : Value := (found.map ofJson).getD .undefined

theorem item_ofJson (key : Text) (fields : Entries Json) :
    (ofJson (.object fields)).item (.string key) = .ok (ofFound (Entries.get? key fields)) := by
  rw [ofJson, item, find?_ofFields, ofFound]

end Value

/-! ## Paths -/

namespace Expression

open Value (ofFound)

variable {context : Json} {e : Expression}

/-- Only objects are on the way, so each further name asks for a field. -/
theorem value_ofPath_of_found {found : Option Json} (he : e.value context = .ok (ofFound found))
    (more : List Text)
    (hobjects : ∀ p q, more = p ++ q → q ≠ [] →
      ∃ fields, found.bind (follow? p) = some (.object fields)) :
    (ofPath e more).value context = .ok (ofFound (found.bind (follow? more))) := by
  induction more generalizing e found with
  | nil =>
    have hfound : found.bind (follow? []) = found := by cases found <;> rfl
    rw [hfound]
    exact he
  | cons name more ih =>
    obtain ⟨fields, hfields⟩ := hobjects [] (name :: more) rfl (List.cons_ne_nil _ _)
    obtain rfl : found = some (.object fields) := by
      cases found with
      | none => cases hfields
      | some j => exact hfields
    have hitem : (Expression.item e (.literal (.string name))).value context =
        .ok (ofFound (Entries.get? name fields)) := by
      rw [value, he, value]
      exact Value.item_ofJson name fields
    apply ih hitem
    rintro p q rfl hq
    exact hobjects (name :: p) q rfl hq

/-- A path in a context, if its first name is no function. -/
theorem value_ofPath {fields : Entries Json} {first : Text} (hfirst : first ∉ functions)
    (more : List Text)
    (hobjects : ∀ p q, first :: more = p ++ q → p ≠ [] → q ≠ [] →
      ∃ inner, follow? p (.object fields) = some (.object inner)) :
    (ofPath (.name first) more).value (.object fields) =
      .ok (ofFound (follow? (first :: more) (.object fields))) := by
  have hname : (Expression.name first).value (.object fields) =
      .ok (ofFound (Entries.get? first fields)) := by
    rw [value, lookUp, Json.fields]
    cases Entries.get? first fields with
    | none =>
      simp only [if_neg hfirst]
      rfl
    | some j => rfl
  apply value_ofPath_of_found hname
  rintro p q rfl hq
  exact hobjects (first :: p) q rfl (List.cons_ne_nil _ _) hq

/-! ## Filters -/

theorem value_default_of_string {t : Text} (he : e.value context = .ok (.string t)) (s : Text) :
    (Expression.filter "default".toList e [.literal (.string s)]).value context =
      .ok (.string t) := by
  simp only [value, he, values]
  rfl

theorem value_default_of_undefined (he : e.value context = .ok .undefined) (s : Text) :
    (Expression.filter "default".toList e [.literal (.string s)]).value context =
      .ok (.string s) := by
  simp only [value, he, values]
  rfl

theorem value_builtIn {name : Text} {f : Text → Text} (hf : (name, f) ∈ Transform.builtIns)
    {t : Text} (he : e.value context = .ok (.string t)) :
    (Expression.filter name e []).value context = .ok (.string (f t)) := by
  simp only [Transform.builtIns, List.mem_cons, Prod.mk.injEq, List.not_mem_nil, or_false] at hf
  simp only [value, he, values]
  rcases hf with ⟨rfl, rfl⟩ | ⟨rfl, rfl⟩ | ⟨rfl, rfl⟩ | ⟨rfl, rfl⟩
  all_goals rfl

end Expression

end Stencil.Jinja
