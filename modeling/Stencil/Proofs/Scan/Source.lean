import Stencil.Proofs.Scan.Finding

/-!
# Source texts say what they hold

Two placeholders with the same source text have the same content. The first closer of a
placeholder stands inside its source text, and what follows it there is the fallback text with its
marks, so both can be read off the source text alone.

* `Find.IsFirst.sourceParts`: the parts of a source text.
* `SourceParts.unique`: there is only one way to divide a source text into these parts.
* `toPlaceholder_eq_of_raw_eq`: hence the source text of a token decides its content.
-/

namespace Stencil

open Text

variable {d : Delimiters}

/-- The parts of a source text: its first character, what stands before the first closer behind that
character, and what follows the closer, which is the fallback text between its marks or nothing. -/
structure SourceParts (d : Delimiters) (raw : Text) (c : Char) (inside suffix : Text)
    (fallback : Option Text) : Prop where
  parts : raw = c :: (inside ++ d.closer ++ suffix)
  closes : Text.IsFirst d.closer (inside ++ d.closer ++ suffix) inside suffix
  tail : fallback = none ∧ suffix = [] ∨
    ∃ text, fallback = some text ∧ d.fallbackOpener ≠ [] ∧
      suffix = d.fallbackOpener ++ text ++ d.fallbackCloser

theorem Find.IsFirst.sourceParts {t : Text} {f : Find} (h : Find.IsFirst d t f) :
    ∃ c inside suffix, f.body = (c :: inside).drop d.opener.length ∧
      SourceParts d f.raw c inside suffix f.fallback := by
  cases h with
  | @plain _ _ _ inside after c opens cons closes absent =>
    exact ⟨c, inside, [], rfl, by simp, closes.shorten, Or.inl ⟨rfl, rfl⟩⟩
  | @fallback _ _ _ inside text after c opens cons closes stands =>
    exact ⟨c, inside, d.fallbackOpener ++ text ++ d.fallbackCloser, rfl, by simp, closes.shorten,
      Or.inr ⟨text, rfl, stands.opener_ne_nil, rfl⟩⟩

theorem SourceParts.unique {raw : Text} {c c' : Char} {inside inside' suffix suffix' : Text}
    {fallback fallback' : Option Text} (h : SourceParts d raw c inside suffix fallback)
    (h' : SourceParts d raw c' inside' suffix' fallback') :
    c = c' ∧ inside = inside' ∧ fallback = fallback' := by
  obtain ⟨hc, hparts⟩ := List.cons.inj (h.parts.symm.trans h'.parts)
  obtain ⟨hinside, hsuffix⟩ := h.closes.unique (hparts ▸ h'.closes)
  refine ⟨hc, hinside, ?_⟩
  rcases h.tail with ⟨rfl, hnil⟩ | ⟨text, rfl, hne, htext⟩ <;>
    rcases h'.tail with ⟨rfl, hnil'⟩ | ⟨text', rfl, hne', htext'⟩
  · rfl
  · rw [hnil, htext'] at hsuffix
    simp [hne'] at hsuffix
  · rw [hnil', htext] at hsuffix
    simp [hne] at hsuffix
  · rw [htext, htext', List.append_assoc, List.append_assoc] at hsuffix
    rw [List.append_cancel_right (List.append_cancel_left hsuffix)]

theorem exists_isFirst_of_mem_scanFrom {e : Nat} {t : Text} {token : Token}
    (h : token ∈ scanFrom d e t) : ∃ rest f, Find.IsFirst d rest f ∧ token.raw = f.raw ∧
      token.toPlaceholder = readBody f.body f.fallback := by
  fun_induction scanFrom d e t with
  | case1 => cases h
  | case2 e t f hf start stop ih =>
    rcases List.mem_cons.mp h with rfl | h
    · exact ⟨t, f, (Find.first?_eq_some_iff.mp hf).2.2, rfl, rfl⟩
    · exact ih h

/-- Tokens with the same source text say the same, also when they are found in different texts. -/
theorem toPlaceholder_eq_of_raw_eq {s t : Text} {a b : Token} (ha : a ∈ scan d s)
    (hb : b ∈ scan d t) (h : a.raw = b.raw) : a.toPlaceholder = b.toPlaceholder := by
  obtain ⟨_, f, hf, hraw, hcontent⟩ := exists_isFirst_of_mem_scanFrom ha
  obtain ⟨_, g, hg, hraw', hcontent'⟩ := exists_isFirst_of_mem_scanFrom hb
  obtain ⟨c, inside, suffix, hbody, hparts⟩ := hf.sourceParts
  obtain ⟨c', inside', suffix', hbody', hparts'⟩ := hg.sourceParts
  rw [← hraw, h, hraw'] at hparts
  obtain ⟨rfl, rfl, hfallback⟩ := hparts.unique hparts'
  rw [hcontent, hcontent', hbody, hbody', hfallback]

end Stencil
