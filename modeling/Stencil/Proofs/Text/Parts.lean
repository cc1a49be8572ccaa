import Stencil.Text.Basic
import Mathlib.Data.List.TakeWhile

/-!
# Splitting and trimming

Small equations for `Text.splitAt` and `Text.trimBy` on lists that are given in parts, and
`Text.of_ascii`, by which a property of ASCII characters is checked number by number.
-/

namespace Stencil.Text

/-! ## Characters -/

theorem of_ascii {p : Char → Prop} (h : ∀ n < 0x80, p (Char.ofNat n)) {c : Char}
    (hc : c.toNat < 0x80) : p c := by
  have hp := h c.toNat hc
  rwa [Char.ofNat_toNat] at hp

/-! ## Splitting -/

/-- What has no separator goes to the first piece of what follows. -/
theorem splitAt_append_of_notMem {α : Type} [DecidableEq α] {sep : α} {l t first : List α}
    {more : List (List α)} (h : sep ∉ l) (ht : splitAt sep t = first :: more) :
    splitAt sep (l ++ t) = (l ++ first) :: more := by
  induction l with
  | nil => exact ht
  | cons a l ih =>
    rw [List.mem_cons, not_or] at h
    simp only [List.cons_append, splitAt, Ne.symm h.1, if_false, ih h.2]

theorem splitAt_of_notMem {α : Type} [DecidableEq α] {sep : α} {l : List α} (h : sep ∉ l) :
    splitAt sep l = [l] := by
  have hsplit := splitAt_append_of_notMem (t := []) h rfl
  rwa [List.append_nil] at hsplit

/-- A separator cuts a list in two, whatever stands before it. -/
theorem splitAt_append_sep {α : Type} [DecidableEq α] (sep : α) (l t : List α) :
    splitAt sep (l ++ sep :: t) = splitAt sep l ++ splitAt sep t := by
  induction l with
  | nil => simp only [List.nil_append, splitAt, if_true, List.cons_append]
  | cons a l ih =>
    obtain ⟨first, more, hl⟩ := List.exists_cons_of_ne_nil (splitAt_ne_nil sep l)
    by_cases ha : a = sep
    · simp only [List.cons_append, splitAt, ha, if_true, ih]
    · simp only [List.cons_append, splitAt, ha, if_false, ih, hl]

theorem splitAt_append_cons {α : Type} [DecidableEq α] {sep : α} {l : List α} (h : sep ∉ l)
    (t : List α) : splitAt sep (l ++ sep :: t) = l :: splitAt sep t := by
  rw [splitAt_append_sep, splitAt_of_notMem h, List.singleton_append]

/-- Cutting a list and then expanding its pieces is the same as the other way around, if only the
separator gives the new separator. -/
theorem splitAt_flatMap {α β : Type} [DecidableEq α] [DecidableEq β] {sep : α} {sep' : β}
    {f : α → List β} (hsep : f sep = [sep']) (hother : ∀ a, a ≠ sep → sep' ∉ f a) (l : List α) :
    splitAt sep' (l.flatMap f) = (splitAt sep l).map fun piece => piece.flatMap f := by
  induction l with
  | nil => rfl
  | cons a l ih =>
    obtain ⟨first, more, hl⟩ := List.exists_cons_of_ne_nil (splitAt_ne_nil sep l)
    by_cases ha : a = sep
    · rw [List.flatMap_cons, ha, hsep, List.singleton_append, splitAt, if_pos rfl, ih, splitAt,
        if_pos rfl, List.map_cons, List.flatMap_nil]
    · rw [hl, List.map_cons] at ih
      simp only [splitAt, ha, if_false, hl, List.map_cons, List.flatMap_cons]
      exact splitAt_append_of_notMem (hother a ha) ih

theorem notMem_of_mem_splitAt {α : Type} [DecidableEq α] {sep : α} {l piece : List α}
    (h : piece ∈ splitAt sep l) : sep ∉ piece := by
  induction l generalizing piece with
  | nil =>
    rw [splitAt, List.mem_singleton] at h
    rw [h]
    exact List.not_mem_nil
  | cons a l ih =>
    by_cases ha : a = sep
    · simp only [splitAt, ha, if_true, List.mem_cons] at h
      rcases h with rfl | h
      · exact List.not_mem_nil
      · exact ih h
    · obtain ⟨first, more, hl⟩ := List.exists_cons_of_ne_nil (splitAt_ne_nil sep l)
      rw [hl] at ih
      simp only [splitAt, ha, if_false, hl, List.mem_cons] at h
      rcases h with rfl | h
      · rw [List.mem_cons, not_or]
        exact ⟨Ne.symm ha, ih List.mem_cons_self⟩
      · exact ih (List.mem_cons_of_mem _ h)

/-- Joining undoes splitting. -/
theorem join_splitAt (sep : Char) (t : Text) : join [sep] (splitAt sep t) = t := by
  induction t with
  | nil => rfl
  | cons c t ih =>
    obtain ⟨first, more, ht⟩ := List.exists_cons_of_ne_nil (splitAt_ne_nil sep t)
    rw [ht] at ih
    by_cases hc : c = sep
    · simp only [splitAt, hc, if_true, ht, join, List.nil_append, List.cons_append, ih]
    · cases more with
      | nil =>
        simp only [splitAt, hc, if_false, ht, join] at ih ⊢
        rw [ih]
      | cons next more =>
        simp only [splitAt, hc, if_false, ht, join, List.cons_append] at ih ⊢
        rw [ih]

theorem join_cons (sep piece : Text) (more : List Text) :
    join sep (piece :: more) = piece ++ more.flatMap (sep ++ ·) := by
  induction more generalizing piece with
  | nil => rw [join, List.flatMap_nil, List.append_nil]
  | cons next more ih => simp only [join, ih, List.flatMap_cons, List.append_assoc]

theorem mem_join {c : Char} {sep : Text} {l : List Text} (h : c ∈ join sep l) :
    c ∈ sep ∨ ∃ piece ∈ l, c ∈ piece := by
  cases l with
  | nil => cases h
  | cons piece more =>
    rw [join_cons, List.mem_append, List.mem_flatMap] at h
    rcases h with h | ⟨other, hother, h⟩
    · exact Or.inr ⟨piece, List.mem_cons_self, h⟩
    · rcases List.mem_append.mp h with h | h
      · exact Or.inl h
      · exact Or.inr ⟨other, List.mem_cons_of_mem _ hother, h⟩

theorem join_append (sep : Text) {l l' : List Text} (hl : l ≠ []) (hl' : l' ≠ []) :
    join sep (l ++ l') = join sep l ++ sep ++ join sep l' := by
  obtain ⟨a, l, rfl⟩ := List.exists_cons_of_ne_nil hl
  obtain ⟨b, l', rfl⟩ := List.exists_cons_of_ne_nil hl'
  simp only [List.cons_append, join_cons, List.flatMap_append, List.flatMap_cons, List.append_assoc]

theorem infix_join {sep piece : Text} {l : List Text} (h : piece ∈ l) : piece <:+: join sep l := by
  obtain ⟨front, back, rfl⟩ := List.append_of_mem h
  have hpiece : piece <+: join sep (piece :: back) := by
    rw [join_cons]
    exact List.prefix_append _ _
  cases front with
  | nil => exact hpiece.isInfix
  | cons a front =>
    rw [join_append sep (List.cons_ne_nil _ _) (List.cons_ne_nil _ _)]
    exact hpiece.isInfix.trans (List.suffix_append _ _).isInfix

/-- Splitting undoes joining. -/
theorem splitAt_join {sep : Char} {l : List Text} (hl : l ≠ []) (h : ∀ piece ∈ l, sep ∉ piece) :
    splitAt sep (join [sep] l) = l := by
  induction l with
  | nil => exact absurd rfl hl
  | cons piece more ih =>
    have hpiece := h piece List.mem_cons_self
    cases more with
    | nil => exact splitAt_of_notMem hpiece
    | cons next more =>
      rw [join, List.append_assoc, List.singleton_append, splitAt_append_cons hpiece,
        ih (List.cons_ne_nil _ _) fun other hother => h other (List.mem_cons_of_mem _ hother)]
      rintro ⟨⟩

/-! ## Trimming -/

variable {α : Type} {p : α → Bool}

/-- What is unwanted around a list does not matter. -/
theorem trimBy_append {x y : List α} (hx : ∀ a ∈ x, p a = true) (hy : ∀ a ∈ y, p a = true)
    (l : List α) : trimBy p (x ++ l ++ y) = trimBy p l := by
  rw [trimBy, trimBy, List.append_assoc, List.dropWhile_append_of_pos hx, List.dropWhile_append]
  split
  · rename_i he
    rw [List.isEmpty_iff.mp he, List.dropWhile_eq_nil_iff.mpr hy]
  · rw [List.reverse_append, List.dropWhile_append_of_pos]
    simpa using hy

/-- Trimming leaves out elements with the property at both ends, and nothing else. -/
theorem exists_trimBy (p : α → Bool) (l : List α) : ∃ x y, l = x ++ trimBy p l ++ y ∧
    (∀ a ∈ x, p a = true) ∧ ∀ a ∈ y, p a = true := by
  refine ⟨l.takeWhile p, ((l.dropWhile p).reverse.takeWhile p).reverse, ?_, ?_, ?_⟩
  · rw [trimBy, List.append_assoc, ← List.reverse_append, List.takeWhile_append_dropWhile,
      List.reverse_reverse, List.takeWhile_append_dropWhile]
  · exact fun a ha => List.mem_takeWhile_imp ha
  · exact fun a ha => List.mem_takeWhile_imp (List.mem_reverse.mp ha)

theorem head?_dropWhile {l : List α} {a : α} (h : a ∈ (l.dropWhile p).head?) : p a = false := by
  have hnot := List.head?_dropWhile_not p l
  rwa [Option.mem_def.mp h] at hnot

theorem getLast?_trimBy (l : List α) : ∀ a ∈ (trimBy p l).getLast?, p a = false := by
  intro a ha
  rw [trimBy, List.getLast?_reverse] at ha
  exact head?_dropWhile ha

/-- What is left behind the front is trimmed at its end only, so it begins as before. -/
theorem head?_trimBy (l : List α) : ∀ a ∈ (trimBy p l).head?, p a = false := by
  intro a ha
  have hprefix : trimBy p l <+: l.dropWhile p := by
    rw [trimBy, ← List.reverse_suffix, List.reverse_reverse]
    exact List.dropWhile_suffix p
  obtain ⟨rest, hrest⟩ := hprefix
  refine head?_dropWhile (l := l) (Option.mem_def.mpr ?_)
  rw [← hrest, List.head?_append, Option.mem_def.mp ha, Option.some_or]

theorem trimBy_trimBy (l : List α) : trimBy p (trimBy p l) = trimBy p l := by
  obtain ⟨x, y, hl, hx, hy⟩ := exists_trimBy p l
  have happend := trimBy_append hx hy (trimBy p l)
  rw [← hl] at happend
  exact happend.symm

theorem infix_trimBy (p : α → Bool) (l : List α) : trimBy p l <:+: l := by
  obtain ⟨x, y, hl, -, -⟩ := exists_trimBy p l
  exact ⟨x, y, hl.symm⟩

theorem trimBy_eq_self {l : List α} (hhead : ∀ a ∈ l.head?, p a = false)
    (hlast : ∀ a ∈ l.getLast?, p a = false) : trimBy p l = l := by
  have key : ∀ l : List α, (∀ a ∈ l.head?, p a = false) → l.dropWhile p = l := by
    intro l h
    cases l with
    | nil => rfl
    | cons a l =>
      rw [List.dropWhile_cons_of_neg]
      simpa using h
  rw [trimBy, key l hhead, key l.reverse, List.reverse_reverse]
  rwa [List.head?_reverse]

theorem mem_of_mem_trimBy {a : α} {l : List α} (h : a ∈ trimBy p l) : a ∈ l :=
  (infix_trimBy p l).mem h

theorem trimBy_of_forall {l : List α} (h : ∀ a ∈ l, p a = false) : trimBy p l = l :=
  trimBy_eq_self (fun a ha => h a (List.mem_of_mem_head? ha))
    fun a ha => h a (List.mem_of_mem_getLast? ha)

end Stencil.Text
