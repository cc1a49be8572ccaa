import Stencil.Chain
import Stencil.Proofs.Text.Character

/-!
# Where a chain is cut

Splitting a chain cuts it at the arrows that stand at the top, and at no others. `Cuts n parts` says
so of the parts: none of them is cut again, and every part but the last one leads back to the top.

* `cuts_splitFrom`, `join_splitFrom`: every chain is split into such parts, and nothing is lost.
* `splitFrom_join`: parts like these, joined by arrows, are split into themselves.
* `Whole.trim`, `Closed.trim`: blank characters at the ends of a part do not matter for this.
-/

namespace Stencil.Chain

open Text

variable {n m : Nesting} {depth : Nat} {last last' : Option Char} {s t : Text}

/-! ## The first part -/

theorem splitFrom_ne_nil (n : Nesting) (t : Text) : splitFrom n t ≠ [] := by
  fun_cases splitFrom n t with
  | case1 => exact List.cons_ne_nil _ _
  | case2 c => exact List.cons_ne_nil _ _
  | case3 c d t => exact List.cons_ne_nil _ _
  | case4 c d t h =>
    cases splitFrom (n.next c) (d :: t) with
    | nil => exact List.cons_ne_nil _ _
    | cons part more => exact List.cons_ne_nil _ _

theorem foldr_glue (s part : Text) (more : List Text) :
    s.foldr glue (part :: more) = (s ++ part) :: more := by
  induction s with
  | nil => rfl
  | cons c s ih => rw [List.foldr_cons, ih, glue, List.cons_append]

/-- Gluing the same text to two splits hides no difference between them. -/
theorem splitFrom_eq_of_foldr_glue {u : Text}
    (h : s.foldr glue (splitFrom n t) = s.foldr glue (splitFrom m u)) :
    splitFrom n t = splitFrom m u := by
  obtain ⟨part, more, hpart⟩ := List.exists_cons_of_ne_nil (splitFrom_ne_nil n t)
  obtain ⟨part', more', hpart'⟩ := List.exists_cons_of_ne_nil (splitFrom_ne_nil m u)
  rw [hpart, hpart', foldr_glue, foldr_glue, List.cons.injEq] at h
  rw [hpart, hpart', List.append_cancel_left h.1, h.2]

/-- Nothing is lost. -/
theorem join_splitFrom (n : Nesting) (t : Text) : join arrow (splitFrom n t) = t := by
  fun_induction splitFrom n t with
  | case1 n => rfl
  | case2 n c => rfl
  | case3 n c d t h ih =>
    obtain ⟨-, rfl, rfl⟩ := h
    obtain ⟨part, more, hpart⟩ := List.exists_cons_of_ne_nil (splitFrom_ne_nil (n.next '-') t)
    rw [hpart] at ih ⊢
    rw [join, ih, arrow]
    · rfl
    · exact List.cons_ne_nil _ _
  | case4 n c d t h ih =>
    obtain ⟨part, more, hpart⟩ := List.exists_cons_of_ne_nil (splitFrom_ne_nil (n.next c) (d :: t))
    rw [hpart, join_cons] at ih
    rw [hpart, glue, join_cons, List.cons_append, ih]

/-! ## Texts that are not cut -/

/-- Read from the place `n` on, the text is not cut. -/
def Whole (n : Nesting) (s : Text) : Prop := splitFrom n s = [s]

theorem whole_nil (n : Nesting) : Whole n [] := rfl

theorem whole_singleton (n : Nesting) (c : Char) : Whole n [c] := rfl

theorem whole_cons_cons_iff {c d : Char} : Whole n (c :: d :: t) ↔
    ¬ (n.atTop = true ∧ c = '-' ∧ d = '>') ∧ Whole (n.next c) (d :: t) := by
  unfold Whole
  rw [splitFrom]
  split
  · rename_i hcut
    simp [hcut]
  · rename_i hcut
    obtain ⟨part, more, hpart⟩ := List.exists_cons_of_ne_nil (splitFrom_ne_nil (n.next c) (d :: t))
    rw [hpart, glue]
    simp [hcut]

theorem Whole.of_append_left (h : Whole n (s ++ t)) : Whole n s := by
  induction s generalizing n with
  | nil => exact whole_nil n
  | cons c s ih =>
    cases s with
    | nil => exact whole_singleton n c
    | cons d s =>
      obtain ⟨hcut, htail⟩ := whole_cons_cons_iff.mp h
      exact whole_cons_cons_iff.mpr ⟨hcut, ih htail⟩

theorem Whole.of_append_right (h : Whole n (s ++ t)) : Whole (s.foldl Nesting.next n) t := by
  induction s generalizing n with
  | nil => exact h
  | cons c s ih =>
    apply ih
    rw [List.cons_append] at h
    cases hst : s ++ t with
    | nil => exact whole_nil _
    | cons d u =>
      rw [hst] at h
      exact (whole_cons_cons_iff.mp h).2

/-- A text that is not cut is not cut either in front of anything that cannot complete an arrow. -/
theorem Whole.splitFrom_append (h : Whole n s) (ht : t.head? ≠ some '>') :
    splitFrom n (s ++ t) = s.foldr glue (splitFrom (s.foldl Nesting.next n) t) := by
  induction s generalizing n with
  | nil => rfl
  | cons c s ih =>
    have hcut : ∀ d u, s ++ t = d :: u → ¬ (n.atTop = true ∧ c = '-' ∧ d = '>') := by
      intro d u hst
      cases s with
      | nil =>
        rintro ⟨-, -, rfl⟩
        exact ht (by rw [← List.nil_append t, hst, List.head?_cons])
      | cons d' s =>
        obtain ⟨rfl, -⟩ := List.cons.inj hst
        exact (whole_cons_cons_iff.mp h).1
    have htail : Whole (n.next c) s := h.of_append_right (s := [c])
    rw [List.foldr_cons, List.foldl_cons, ← ih htail, List.cons_append]
    cases hst : s ++ t with
    | nil => rfl
    | cons d u => rw [splitFrom, if_neg (hcut d u hst)]

/-! ## Parts -/

/-- The text is not cut, and the place behind it is at the top again. -/
structure Closed (n : Nesting) (s : Text) : Prop where
  whole : Whole n s
  atTop : (s.foldl Nesting.next n).atTop = true

/-- The place behind an arrow at the top. -/
def Nesting.behindArrow : Nesting := ⟨0, none, some '-'⟩

/-- The parts of a chain that is split from the place `n` on. -/
def Cuts (n : Nesting) : List Text → Prop
  | [] => False
  | [part] => Whole n part
  | part :: next :: more => Closed n part ∧ Cuts .behindArrow (next :: more)

theorem next_dash (h : n.atTop = true) : n.next '-' = .behindArrow := by
  obtain ⟨depth, quote, last⟩ := n
  simp only [Nesting.atTop, Bool.and_eq_true, beq_iff_eq, Option.isNone_iff_eq_none] at h
  obtain ⟨rfl, rfl⟩ := h
  rfl

theorem splitFrom_arrow (h : n.atTop = true) (t : Text) :
    splitFrom n (arrow ++ t) = [] :: splitFrom .behindArrow t := by
  rw [arrow, List.cons_append, List.cons_append, List.nil_append, splitFrom,
    if_pos ⟨h, rfl, rfl⟩, next_dash h]

theorem Closed.splitFrom_arrow (h : Closed n s) (t : Text) :
    splitFrom n (s ++ arrow ++ t) = s :: splitFrom .behindArrow t := by
  have hhead : (arrow ++ t).head? ≠ some '>' := by
    rw [arrow, List.cons_append, List.head?_cons]
    decide
  rw [List.append_assoc, h.whole.splitFrom_append hhead, Chain.splitFrom_arrow h.atTop, foldr_glue,
    List.append_nil]

/-- Parts are split again where they were joined. -/
theorem splitFrom_join {parts : List Text} (h : Cuts n parts) :
    splitFrom n (join arrow parts) = parts := by
  induction parts generalizing n with
  | nil => exact h.elim
  | cons part more ih =>
    cases more with
    | nil => exact h
    | cons next more =>
      rw [join, h.1.splitFrom_arrow, ih h.2]
      exact List.cons_ne_nil _ _

/-- Every chain is split into parts that are not cut again. -/
theorem cuts_splitFrom (n : Nesting) (t : Text) : Cuts n (splitFrom n t) := by
  fun_induction splitFrom n t with
  | case1 n => exact whole_nil n
  | case2 n c => exact whole_singleton n c
  | case3 n c d t h ih =>
    obtain ⟨htop, rfl, rfl⟩ := h
    rw [next_dash htop] at ih ⊢
    obtain ⟨part, more, hpart⟩ := List.exists_cons_of_ne_nil (splitFrom_ne_nil .behindArrow t)
    rw [hpart] at ih ⊢
    exact ⟨⟨whole_nil n, htop⟩, ih⟩
  | case4 n c d t h ih =>
    have hjoin := join_splitFrom (n.next c) (d :: t)
    obtain ⟨part, more, hpart⟩ := List.exists_cons_of_ne_nil (splitFrom_ne_nil (n.next c) (d :: t))
    rw [hpart, join_cons] at hjoin
    rw [hpart] at ih ⊢
    -- the first part begins with `d` unless it is empty, so it is not cut behind `c` either
    have hwhole : Whole (n.next c) part → Whole n (c :: part) := by
      intro hw
      cases part with
      | nil => exact whole_singleton n c
      | cons d' part =>
        obtain ⟨rfl, -⟩ := List.cons.inj hjoin
        exact whole_cons_cons_iff.mpr ⟨h, hw⟩
    cases more with
    | nil => exact hwhole ih
    | cons next more => exact ⟨⟨hwhole ih.1.whole, ih.1.atTop⟩, ih.2⟩

/-! ## Blank characters around a part -/

/-- Outside quotes it does not matter which character was read last. -/
theorem splitFrom_last (depth : Nat) (last last' : Option Char) (t : Text) :
    splitFrom ⟨depth, none, last⟩ t = splitFrom ⟨depth, none, last'⟩ t := by
  cases t with
  | nil => rfl
  | cons c t =>
    cases t with
    | nil => rfl
    | cons d t => rfl

theorem atTop_foldl_last (depth : Nat) (last last' : Option Char) (t : Text) :
    (t.foldl Nesting.next ⟨depth, none, last⟩).atTop =
      (t.foldl Nesting.next ⟨depth, none, last'⟩).atTop := by
  cases t with
  | nil => rfl
  | cons c t => rfl

/-- An open region was opened by a quote. -/
def Nesting.Quoted (n : Nesting) : Prop := ∀ q ∈ n.quote, Arguments.isQuote q = true

theorem Nesting.Quoted.next (h : n.Quoted) (c : Char) : (n.next c).Quoted := by
  intro q hq
  unfold Nesting.next at hq
  split at hq
  · rename_i q' hq'
    simp only at hq
    split at hq
    · cases hq
    · exact h q (hq' ▸ hq)
  · split at hq
    · rename_i hquote
      obtain rfl := Option.some.inj hq
      exact (Bool.and_eq_true_iff.mp hquote).1
    · split at hq
      · cases hq
      · split at hq <;> cases hq

theorem Nesting.Quoted.foldl (h : n.Quoted) (s : Text) : (s.foldl Nesting.next n).Quoted := by
  induction s generalizing n with
  | nil => exact h
  | cons c s ih => exact ih (h.next c)

theorem quoted_outside : Nesting.Quoted ⟨depth, none, last⟩ := fun _ h => by cases h

/-- A blank character changes neither the depth nor the region. -/
theorem next_blank {c : Char} (h : n.Quoted) (hc : isBlank c = true) :
    n.next c = ⟨n.depth, n.quote, some c⟩ := by
  have hquote := isQuote_of_isBlank hc
  unfold Nesting.next
  split
  · rename_i q hq
    have hne : ¬ (c = q ∧ n.last ≠ some '\\') := by
      rintro ⟨rfl, -⟩
      rw [h c hq] at hquote
      cases hquote
    rw [if_neg hne, hq]
  · rename_i hq
    have hopen : c ≠ '(' := ne_of_true_of_false hc (by decide)
    have hclose : c ≠ ')' := ne_of_true_of_false hc (by decide)
    simp only [hquote, Bool.false_and, Bool.false_eq_true, hopen, hclose, if_false, hq]

theorem foldl_blank (h : n.Quoted) (ht : ∀ c ∈ t, isBlank c = true) :
    ∃ last, t.foldl Nesting.next n = ⟨n.depth, n.quote, last⟩ := by
  induction t generalizing n with
  | nil => exact ⟨n.last, rfl⟩
  | cons c t ih =>
    obtain ⟨last, hlast⟩ := ih (h.next c) fun x hx => ht x (List.mem_cons_of_mem _ hx)
    rw [next_blank h (ht c List.mem_cons_self)] at hlast
    rw [List.foldl_cons, next_blank h (ht c List.mem_cons_self)]
    exact ⟨last, hlast⟩

theorem Whole.trim (h : Whole ⟨depth, none, last⟩ s) : Whole ⟨depth, none, last'⟩ (trim s) := by
  obtain ⟨x, y, hs, hx, -⟩ := exists_trimBy isBlank s
  obtain ⟨mid, hmid⟩ := foldl_blank (@quoted_outside depth last) hx
  rw [hs, List.append_assoc] at h
  have hrest := h.of_append_right
  rw [hmid] at hrest
  have hmiddle := hrest.of_append_left
  unfold Whole at hmiddle ⊢
  rwa [splitFrom_last depth last' mid]

theorem Closed.trim (h : Closed ⟨depth, none, last⟩ s) : Closed ⟨depth, none, last'⟩ (trim s) := by
  refine ⟨h.whole.trim, ?_⟩
  -- blanks never close a region, so the place in front of the last ones is at the top already
  obtain ⟨x, y, hs, hx, hy⟩ := exists_trimBy isBlank s
  obtain ⟨mid, hmid⟩ := foldl_blank (@quoted_outside depth last) hx
  have hquoted := (@quoted_outside depth mid).foldl (Text.trim s)
  obtain ⟨back, hback⟩ := foldl_blank hquoted hy
  have htop := h.atTop
  rw [hs, List.foldl_append, List.foldl_append, hmid] at htop
  unfold Text.trim at hback
  rw [hback] at htop
  rw [atTop_foldl_last depth last' mid]
  exact htop

/-- A character behind a chain that completes no arrow belongs to the last part. -/
theorem splitFrom_append_singleton {c : Char} (hc : c ≠ '>') (n : Nesting) (t : Text) :
    ∃ front part, splitFrom n t = front ++ [part] ∧
      splitFrom n (t ++ [c]) = front ++ [part ++ [c]] := by
  fun_induction splitFrom n t with
  | case1 n => exact ⟨[], [], rfl, rfl⟩
  | case2 n d =>
    have hcut : ¬ (n.atTop = true ∧ d = '-' ∧ c = '>') := fun h => hc h.2.2
    refine ⟨[], [d], rfl, ?_⟩
    rw [List.cons_append, List.nil_append, splitFrom, if_neg hcut]
    rfl
  | case3 n d e t hcut ih =>
    obtain ⟨front, part, hsplit, hsplit'⟩ := ih
    refine ⟨[] :: front, part, ?_, ?_⟩
    · rw [hsplit, List.cons_append]
    · rw [List.cons_append, List.cons_append, splitFrom, if_pos hcut, hsplit', List.cons_append]
  | case4 n d e t hcut ih =>
    obtain ⟨front, part, hsplit, hsplit'⟩ := ih
    rw [List.cons_append, List.cons_append, splitFrom, if_neg hcut, hsplit, ← List.cons_append,
      hsplit']
    cases front with
    | nil => exact ⟨[], d :: part, rfl, rfl⟩
    | cons first front => exact ⟨(d :: first) :: front, part, rfl, rfl⟩

end Stencil.Chain
