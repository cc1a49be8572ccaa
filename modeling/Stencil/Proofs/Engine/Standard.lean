import Stencil.Proofs.Engine.Memo
import Stencil.Proofs.Text.Case

/-!
# Standard transforms

An engine that has the standard transforms and meets no other calls cannot fail on a chain: the
chain is the composition of its functions. If all values can be selected, then the rendering
succeeds with the values that the tokens have each on its own.

* `Transform.through`: the composition, and `Transform.notMem_through`: it brings no new sign.
* `Engine.result_values_of_forall`: the values of a rendering.
-/

namespace Stencil

namespace Transform

/-- The function of a name that is always there. -/
def builtIn (name : Text) : Text → Text := (Entries.get? name builtIns).getD id

/-- The text that a chain of functions makes of a text. -/
def through (calls : List Call) (t : Text) : Text :=
  calls.foldl (fun t call => builtIn call.name t) t

theorem get?_builtIns {name : Text} (h : name ∈ Entries.keys builtIns) :
    Entries.get? name builtIns = some (builtIn name) := by
  rw [builtIn]
  cases hf : Entries.get? name builtIns with
  | none => exact absurd h (Entries.get?_eq_none_iff.mp hf)
  | some f => rfl

theorem mem_builtIns {name : Text} (h : name ∈ Entries.keys builtIns) :
    (name, builtIn name) ∈ builtIns := Entries.mem_of_get? (get?_builtIns h)

theorem notMem_of_mem_builtIns {c : Char} (hc : Text.IsSign c) {name : Text} {f : Text → Text}
    (hf : (name, f) ∈ builtIns) {t : Text} (h : c ∉ t) : c ∉ f t := by
  simp only [builtIns, List.mem_cons, Prod.mk.injEq, List.not_mem_nil, or_false] at hf
  rcases hf with ⟨-, rfl⟩ | ⟨-, rfl⟩ | ⟨-, rfl⟩ | ⟨-, rfl⟩
  · exact fun hmem => h (Text.mem_of_mem_trimBy hmem)
  · exact hc.notMem_upper h
  · exact hc.notMem_lower h
  · exact hc.notMem_capitalize h

/-- Chains bring no new sign. -/
theorem notMem_through {c : Char} (hc : Text.IsSign c) {calls : List Call}
    (hcalls : ∀ call ∈ calls, call.name ∈ Entries.keys builtIns) {t : Text} (h : c ∉ t) :
    c ∉ through calls t := by
  induction calls generalizing t with
  | nil => exact h
  | cons call more ih =>
    have hcall := mem_builtIns (hcalls call List.mem_cons_self)
    apply ih fun other hother => hcalls other (List.mem_cons_of_mem _ hother)
    exact notMem_of_mem_builtIns hc hcall h

end Transform

namespace Engine

variable {σ : Type} {e : Engine σ} {metadata : Json}

theorem result_applyCalls_standard (he : e.registry = .standard) (p : Placeholder)
    {calls : List Call} (hcalls : ∀ call ∈ calls, call.name ∈ Entries.keys Transform.builtIns)
    (t : Text) (memory : σ) :
    (e.applyCalls p calls t memory).result = .ok (Transform.through calls t) := by
  induction calls generalizing t memory with
  | nil => rfl
  | cons call more ih =>
    have hfind : e.registry.find? call.name =
        some (Transform.ofText (Transform.builtIn call.name)) := by
      rw [he, Registry.find?_standard,
        Transform.get?_builtIns (hcalls call List.mem_cons_self), Option.map_some]
    rw [e.applyCalls_of_ok hfind rfl]
    exact ih (fun other hother => hcalls other (List.mem_cons_of_mem _ hother)) _ memory

/-- A chain of standard transforms succeeds on what was selected. -/
theorem result_value_standard (he : e.registry = .standard) {p : Placeholder} {t : Text}
    (hselect : e.select metadata p = .ok t)
    (hcalls : ∀ call ∈ p.calls, call.name ∈ Entries.keys Transform.builtIns) (memory : σ) :
    (e.value metadata p memory).result = .ok (Transform.through p.calls t) := by
  have hresult : (e.evaluate metadata p memory).result = .ok (Transform.through p.calls t) := by
    rw [evaluate, hselect]
    exact result_applyCalls_standard he p hcalls t memory
  rw [value, recover, hresult]
  exact hresult

theorem result_freshValues_of_forall {f : Token → Text} {tokens : List Token}
    (h : ∀ token ∈ tokens, ∀ memory,
      (e.value metadata token.toPlaceholder memory).result = .ok (f token)) (memory : σ) :
    (e.freshValues metadata tokens memory).result = .ok (tokens.map f) := by
  induction tokens generalizing memory with
  | nil => rfl
  | cons token more ih =>
    have hmore := ih (fun other hother => h other (List.mem_cons_of_mem _ hother))
      (e.value metadata token.toPlaceholder memory).memory
    rw [e.freshValues_of_ok metadata (h token List.mem_cons_self memory)]
    rw [Run.after, Run.mapOk, hmore]
    rfl

/-- If every token has a value of its own, whatever the memory, then these are the values of a
rendering. -/
theorem result_values_of_forall {f : Token → Text} {d : Delimiters} {source : Text}
    (hpure : e.IsPure) (h : ∀ token ∈ scan d source, ∀ memory,
      (e.value metadata token.toPlaceholder memory).result = .ok (f token)) (memory : σ) :
    (e.values metadata (scan d source) [] memory).result = .ok ((scan d source).map f) := by
  rw [hpure.result_values_scan metadata d source memory]
  exact result_freshValues_of_forall h memory

end Engine

end Stencil
