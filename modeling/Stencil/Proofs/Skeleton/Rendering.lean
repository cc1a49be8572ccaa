import Stencil.Proofs.Engine.Selection
import Stencil.Proofs.Skeleton.Survivors

/-!
# Rendering against the skeleton

A skeleton holds what a template falls back to, so rendering against it is like rendering without
any metadata, as long as no token destroys what another one has written.

* `Template.Agreeing`: tokens that touch each other ask for the same.
* `Template.resolve?_skeleton_of_agreeing`: every path then leads to its fallback text.
* `Engine.render_skeleton`: the two renderings are the same, and no key is missing.
-/

namespace Stencil

open Json

namespace Template

/-- Tokens whose paths touch each other have the same path and the same fallback text. -/
def Agreeing (tokens : List Token) : Prop :=
  ∀ a ∈ tokens, ∀ b ∈ tokens, Comparable a.path b.path →
    a.path = b.path ∧ a.fallbackText = b.fallbackText

instance (tokens : List Token) : Decidable (Agreeing tokens) :=
  inferInstanceAs (Decidable (∀ a ∈ tokens, ∀ b ∈ tokens, _ → _))

/-- What agreeing tokens have written so far is a tree in which each path that is not empty leads to
the fallback text of its token. -/
theorem resolve?_sketches_of_agreeing {tokens : List Token} (h : Agreeing tokens) :
    ∃ fields, tokens.foldl (fun data token => sketch data token.toPlaceholder) (.object []) =
        .object fields ∧ Branches fields ∧
      ∀ token ∈ tokens, token.path ≠ [] →
        resolve? token.path (.object fields) = some (.string token.fallbackText) := by
  -- Tokens are written in source order, so the induction takes off the last one.
  induction tokens using List.reverseRecOn with
  | nil => exact ⟨[], rfl, Branches.nil, fun _ hmem => by cases hmem⟩
  | append_singleton tokens last ih =>
    have hbefore : Agreeing tokens := fun a ha b hb =>
      h a (List.mem_append_left _ ha) b (List.mem_append_left _ hb)
    obtain ⟨fields, hfields, hbranches, hreads⟩ := ih hbefore
    obtain ⟨written, hwritten, hbranches'⟩ := hbranches.assign last.path last.fallbackText
    rw [List.foldl_append, List.foldl_cons, List.foldl_nil, hfields]
    refine ⟨written, hwritten, hbranches', ?_⟩
    intro token hmem hpath
    rw [← hwritten]
    refine (resolve?_sketch_iff hbranches last.toPlaceholder hpath _).mpr ?_
    split
    · rename_i hc
      exact h last (by simp) token hmem hc.2
    · rename_i hc
      rcases List.mem_append.mp hmem with hmem | hmem
      · exact hreads token hmem hpath
      · obtain rfl := List.mem_singleton.mp hmem
        exact absurd ⟨hpath, Or.inl List.prefix_rfl⟩ hc

theorem resolve?_skeleton_of_agreeing {template : Template} (h : Agreeing template.tokens)
    {token : Token} (hmem : token ∈ template.tokens) (hpath : token.path ≠ []) :
    resolve? token.path template.skeleton = some (.string token.fallbackText) := by
  obtain ⟨fields, hfields, -, hreads⟩ := resolve?_sketches_of_agreeing h
  rw [skeleton, hfields]
  exact hreads token hmem hpath

end Template

namespace Json

/-- Nothing has a value in metadata that holds nothing. -/
theorem resolve?_empty (path : Text) : resolve? path (.object []) = none := by
  by_cases hpath : path = []
  · rw [resolve?, if_pos hpath]
  · obtain ⟨segment, more, hs⟩ := List.exists_cons_of_ne_nil (segments_ne_nil path)
    rw [Branches.nil.resolve?_eq hpath, hs]
    exact follow?_empty [] segment more

theorem resolve?_nil (j : Json) : resolve? [] j = none := by
  cases j with
  | object fields => rw [resolve?, if_pos rfl]
  | _ => rfl

end Json

namespace Engine

open Template

variable {σ : Type}

/-- In a lax rendering with an empty fallback value, a token that has no value in the metadata
starts from its fallback text. -/
theorem select_of_resolve?_eq_none {e : Engine σ} (hstrict : e.options.strict = false)
    (hvalue : e.options.fallbackValue = []) {metadata : Json} {p : Placeholder}
    (h : metadata.resolve? p.path = none) : e.select metadata p = .ok p.fallbackText := by
  rw [select, h, Placeholder.fallbackText]
  cases p.fallback with
  | none => simp only [hstrict, hvalue, Bool.false_eq_true, if_false, Option.getD_none]
  | some text => rfl

/-- In a skeleton of agreeing tokens, a token with a path starts from its fallback text. -/
theorem select_skeleton (e : Engine σ) {template : Template} (h : Agreeing template.tokens)
    {token : Token} (hmem : token ∈ template.tokens) (hpath : token.path ≠ []) :
    e.select template.skeleton token.toPlaceholder = .ok token.fallbackText := by
  rw [select, resolve?_skeleton_of_agreeing h hmem hpath]
  rfl

/-- **Rendering against the skeleton.** If tokens that touch each other agree, then a lax rendering
with an empty fallback value runs against the skeleton as it runs against nothing: with the same
text, the same calls, the same reports and the same memory. If no path is empty, then no rendering
against the skeleton, strict or not, ends with a missing key or reports one. -/
theorem render_skeleton (template : Template) (h : Agreeing template.tokens) :
    (∀ (e : Engine σ) memory, e.options.strict = false → e.options.fallbackValue = [] →
      e.render template template.skeleton memory = e.render template (.object []) memory) ∧
    ((∀ token ∈ template.tokens, token.path ≠ []) → ∀ (e : Engine σ) memory failure,
      (e.render template template.skeleton memory).result = .error failure ∨
        failure ∈ (e.render template template.skeleton memory).reports →
      failure.cause ≠ .missingKey) := by
  refine ⟨?_, ?_⟩
  · intro e memory hstrict hvalue
    apply e.render_congr
    intro token hmem
    rw [select_of_resolve?_eq_none hstrict hvalue (resolve?_empty _)]
    by_cases hpath : token.path = []
    · apply select_of_resolve?_eq_none hstrict hvalue
      rw [hpath, resolve?_nil]
    · exact e.select_skeleton h hmem hpath
  · intro hpaths e memory failure hfailure
    obtain ⟨token, hmem, memory', hvalue⟩ := complains_render (Run.complains_iff.mpr hfailure)
    exact cause_ne_missingKey (e.select_skeleton h hmem (hpaths token hmem)) hvalue

/-- Three tokens, two of which share a path, with a transform that numbers its calls and a call that
nobody knows. -/
theorem render_skeleton_numbered :
    let number : Transform Nat := fun value _ n =>
      (.ok (value ++ '#' :: Decimal.Layout.digits n), n + 1)
    let lax : Engine Nat := { registry := [("n".toList, number)], listener := some [] }
    let strict : Engine Nat := { lax with options := { strict := true } }
    let template := Template.parse {} "<<@u:a->n@>>[(x)] <<@u.a->f->n@>>[(x)] <<@u:b->n@>>".toList
    Agreeing template.tokens ∧ (∀ token ∈ template.tokens, token.path ≠ []) ∧
      (lax.render template (.object []) 1).result = .ok "x#1 x#2 #3".toList ∧
      (lax.render template (.object []) 1).reports.map Failure.cause = [.unknownFunction ['f']] ∧
      lax.render template template.skeleton 1 = lax.render template (.object []) 1 ∧
      ∀ failure ∈ (strict.render template template.skeleton 1).reports,
        failure.cause ≠ .missingKey := by
  intro number lax strict template
  have hagree : Agreeing template.tokens := by decide +kernel
  have hpaths : ∀ token ∈ template.tokens, token.path ≠ [] := by decide +kernel
  obtain ⟨hsame, hkeys⟩ := render_skeleton (σ := Nat) template hagree
  refine ⟨hagree, hpaths, by decide +kernel, by decide +kernel, hsame lax 1 rfl rfl, ?_⟩
  intro failure hmem
  exact hkeys hpaths strict 1 failure (Or.inr hmem)

end Engine

end Stencil
