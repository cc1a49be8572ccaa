import Stencil.Scan
import Stencil.Proofs.Text.Occurrence
import Stencil.Proofs.Text.Parts

/-!
# What a body says

The scope, the key and the chain that are read from the body of a placeholder are parts of it: the
scope and the key are trimmed, the scope holds no colon, and neither of them holds an arrow.

* `scope_readPath`, `key_readPath`: the two parts of a path.
* `exists_readBody`: a body is a path, and perhaps a chain behind an arrow.
-/

namespace Stencil

open Text Chain

variable {t : Text}

/-! ## Paths -/

theorem scope_readPath : ∀ scope ∈ (readPath t).1,
    scope ≠ [] ∧ trim scope = scope ∧ ':' ∉ scope ∧ scope <:+: t := by
  intro scope hscope
  unfold readPath at hscope
  split at hscope
  · cases hscope
  · rename_i before after hcut
    simp only at hscope
    split at hscope
    · cases hscope
    · rename_i hne
      obtain rfl := Option.some.inj hscope
      have hfree := (isFirst_of_cut? hcut).not_isInfix (List.cons_ne_nil _ _)
      refine ⟨hne, trimBy_trimBy before, ?_, ?_⟩
      · intro hmem
        exact hfree ((List.singleton_infix_iff _ _).mpr (mem_of_mem_trimBy hmem))
      · refine (infix_trimBy isBlank before).trans ⟨[], [':'] ++ after, ?_⟩
        rw [cut?_eq_some hcut, List.nil_append, List.append_assoc]

theorem key_readPath : trim (readPath t).2 = (readPath t).2 ∧ (readPath t).2 <:+: t := by
  unfold readPath
  split
  · exact ⟨trimBy_trimBy t, infix_trimBy isBlank t⟩
  · rename_i before after hcut
    refine ⟨trimBy_trimBy after, (infix_trimBy isBlank after).trans ⟨before ++ [':'], [], ?_⟩⟩
    rw [cut?_eq_some hcut, List.append_nil]

/-! ## Bodies -/

@[simp] theorem readBody_fallback (body : Text) (fallback : Option Text) :
    (readBody body fallback).fallback = fallback := by
  unfold readBody
  split <;> rfl

/-- A body is a path without an arrow, and perhaps a chain behind the first arrow. -/
theorem exists_readBody (body : Text) (fallback : Option Text) : ∃ path calls,
    readBody body fallback = ⟨(readPath path).1, (readPath path).2, calls, fallback⟩ ∧
      path <:+: body ∧ ¬ arrow <:+: path ∧
      (calls = [] ∨ ∃ chain, chain <:+: body ∧ calls = Chain.read chain) := by
  unfold readBody
  split
  · rename_i hcut
    exact ⟨body, [], rfl, List.infix_rfl, cut?_eq_none_iff.mp hcut, Or.inl rfl⟩
  · rename_i path chain hcut
    have hfree := (isFirst_of_cut? hcut).not_isInfix (List.cons_ne_nil _ _)
    have hbody := cut?_eq_some hcut
    refine ⟨path, Chain.read chain, rfl, ?_, hfree, Or.inr ⟨chain, ?_, rfl⟩⟩
    · exact ⟨[], arrow ++ chain, by rw [hbody, List.nil_append, List.append_assoc]⟩
    · exact ⟨path ++ arrow, [], by rw [hbody, List.append_nil]⟩

end Stencil
