import Stencil.Proofs.Substitution.Filling
import Stencil.Proofs.Substitution.Splicing

/-!
# Replacements between the gaps

The gaps of a template are the texts in front of its tokens; what is behind the last token is its
rest. The gaps of a scan hold no opener, but the rest may hold one that is never closed. So a
replacement leaves the gaps as they are if no opener arises in the values or where they touch the
gaps: `Separates mark t` says that a copy of `mark` stands on one side of `t`.

* `source_eq_interleave`: a text is its gaps, the source texts of its tokens and its rest.
* `not_infix_of_mem_gaps`: the gaps of a scan hold no opener.
* `map_eq_interleave`: values that separate take the places of the tokens and nothing else changes.
-/

namespace Stencil

open Text

/-- A copy of the mark that touches this text stands beside it. -/
def Separates (mark t : Text) : Prop := ∀ a b, mark <:+: a ++ t ++ b → mark <:+: a ∨ mark <:+: b

theorem separates_of_ends {mark t : Text} {c d : Char} (hc : c ∉ mark) (hd : d ∉ mark)
    (ht : ¬ mark <:+: t) : Separates mark (c :: (t ++ [d])) := by
  intro a b h
  have hparts : a ++ c :: (t ++ [d]) ++ b = a ++ c :: (t ++ d :: b) := by simp
  rw [hparts, infix_append_cons_iff hc, infix_append_cons_iff hd] at h
  exact h.imp_right fun h => h.resolve_left ht

namespace Template

/-- The texts in front of the tokens. -/
def gaps (template : Template) : List Text := gapsFrom template.source 0 template.tokens

/-- The text behind the last token. -/
def rest (template : Template) : Text := restFrom template.source 0 template.tokens

@[simp] theorem length_gaps (template : Template) :
    template.gaps.length = template.tokens.length :=
  length_gapsFrom _ _ _

theorem not_infix_interleave {mark : Text} (hm : mark ≠ []) {gaps values : List Text}
    (hgaps : ∀ gap ∈ gaps, ¬ mark <:+: gap) (hvalues : ∀ value ∈ values, Separates mark value) :
    ¬ mark <:+: interleave gaps values [] := by
  induction gaps generalizing values with
  | nil =>
    rw [interleave_nil, List.infix_nil]
    exact hm
  | cons gap gaps ih =>
    cases values with
    | nil =>
      intro h
      exact hm (List.infix_nil.mp h)
    | cons value values =>
      rw [interleave_cons]
      intro h
      rw [List.forall_mem_cons] at hgaps hvalues
      rcases hvalues.1 _ _ h with h | h
      · exact hgaps.1 h
      · exact ih hgaps.2 hvalues.2 h

/-! ## The gaps of a scan -/

section

variable {d : Delimiters}

/-- Nothing but the source texts of the tokens stands between the gaps. -/
theorem eq_interleave_of_layout {e : Nat} {t : Text} {tokens : List Token}
    (layout : Layout e t tokens) (front : Text) (he : e = size front) :
    t = interleave (gapsFrom (front ++ t) e tokens) (tokens.map Token.raw)
      (restFrom (front ++ t) e tokens) := by
  induction layout generalizing front with
  | nil => rw [gapsFrom, restFrom, interleave_nil, he, skip_size_append]
  | @cons e gap after token more start stop tail ih =>
    have hstop : token.stop = size (front ++ gap ++ token.raw) := by
      rw [stop, start, he, size_append, size_append]
    have hfront : front ++ (gap ++ token.raw ++ after) = front ++ gap ++ token.raw ++ after := by
      simp only [List.append_assoc]
    rw [gapsFrom_cons more he start, List.map_cons, interleave_cons, restFrom, hfront,
      ← ih _ hstop]

theorem source_eq_interleave (d : Delimiters) (source : Text) :
    source = interleave (parse d source).gaps ((parse d source).tokens.map Token.raw)
      (parse d source).rest :=
  eq_interleave_of_layout (layout_scan d source) [] rfl

/-- A placeholder starts at the first opener that is left. -/
theorem not_infix_of_mem_gapsFrom {e : Nat} {t : Text} (front : Text) (he : e = size front) :
    ∀ gap ∈ gapsFrom (front ++ t) e (scanFrom d e t), ¬ d.opener <:+: gap := by
  fun_induction scanFrom d e t generalizing front with
  | case1 e t h => exact List.forall_mem_nil _
  | case2 e t f h start stop ih =>
    obtain ⟨hopener, -, hfirst⟩ := Find.first?_eq_some_iff.mp h
    obtain ⟨ht, -⟩ := Find.parts_of_first? h
    have hstop : stop = size (front ++ f.before ++ f.raw) := by
      simp only [stop, start, he, size_append]
    have hmore := ih (front ++ f.before ++ f.raw) hstop
    have hfront : front ++ f.before ++ f.raw ++ f.after =
        front ++ (f.before ++ f.raw ++ f.after) := by simp only [List.append_assoc]
    rw [hfront, ← ht] at hmore
    have hgap : between e start (front ++ t) = f.before := by
      rw [ht]
      exact @between_gap _ _ _ _ ⟨readBody f.body f.fallback, f.raw, start, stop⟩ he rfl
    rw [gapsFrom, List.forall_mem_cons]
    constructor
    · rw [hgap]
      exact hfirst.not_isInfix_before hopener
    · exact hmore

theorem not_infix_of_mem_gaps (d : Delimiters) (source : Text) :
    ∀ gap ∈ (parse d source).gaps, ¬ d.opener <:+: gap :=
  not_infix_of_mem_gapsFrom [] rfl

/-! ## Replacements -/

theorem splice_eq_interleave (template : Template) {values : List Text}
    (hlen : values.length = template.tokens.length) :
    template.splice values = interleave template.gaps values template.rest :=
  spliceFrom_zip _ _ hlen

/-- Values that keep openers apart take the places of the tokens, and the text around the tokens
stays as it is. -/
theorem map_eq_interleave (hne : d.opener ≠ []) (hm : Unbordered d.opener) {source : Text}
    (hraw : ∀ token ∈ scan d source, d.opener <+: token.raw) {f : Token → Text}
    (hf : ∀ token ∈ scan d source, Separates d.opener (f token)) :
    (parse d source).map f =
      interleave (parse d source).gaps ((parse d source).tokens.map f) (parse d source).rest := by
  have hlen : ((parse d source).tokens.map f).length = (parse d source).tokens.length :=
    List.length_map _
  have hvalues : ∀ value ∈ (parse d source).tokens.map f, Separates d.opener value := by
    intro value hvalue
    obtain ⟨token, htoken, rfl⟩ := List.mem_map.mp hvalue
    exact hf token htoken
  rw [map_eq, ← splice_eq_interleave _ hlen]
  apply fill_eq_spliceFrom hm (layout_scan d source) hraw hlen [] [] rfl
  exact not_infix_interleave hne (not_infix_of_mem_gaps d source) hvalues

end

end Template

end Stencil
