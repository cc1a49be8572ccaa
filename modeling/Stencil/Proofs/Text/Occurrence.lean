import Stencil.Text.Basic
import Mathlib.Data.List.Infix

/-!
# Occurrences of a mark

`Text.cut?` finds the leftmost occurrence of a mark, and finds none only where there is none. A mark
whose copies cannot overlap is found exactly behind a text that is free of it, whatever follows.

* `Text.cut?_eq_some_iff` and `Text.cut?_eq_none_iff` say what `Text.cut?` finds.
* `Text.isFirst_of_unbordered` finds a mark without a border behind a text that does not hold it.
* `Text.infix_append_cons_iff` splits a search at a character that the mark does not have.
* `Text.isFirst_of_foreign` finds a mark behind a text that has none of its characters.
-/

namespace Stencil.Text

/-! ## At the front -/

theorem after?_append (mark t : Text) : after? mark (mark ++ t) = some t := by
  induction mark with
  | nil => rfl
  | cons m mark ih => simpa [after?] using ih

theorem after?_eq_some_iff {mark t rest : Text} : after? mark t = some rest ↔ t = mark ++ rest := by
  constructor
  · exact eq_of_after?
  · rintro rfl
    exact after?_append mark rest

theorem after?_eq_none_iff {mark t : Text} : after? mark t = none ↔ ¬ mark <+: t := by
  constructor
  · rintro h ⟨rest, rfl⟩
    rw [after?_append] at h
    cases h
  · intro h
    cases ha : after? mark t with
    | none => rfl
    | some rest => exact absurd ⟨rest, (eq_of_after? ha).symm⟩ h

/-! ## The first occurrence -/

/-- `mark` stands between `before` and `after` in `t`, and nowhere further to the left. -/
structure IsFirst (mark t before after : Text) : Prop where
  parts : t = before ++ mark ++ after
  least : ∀ b a, t = b ++ mark ++ a → before.length ≤ b.length

theorem IsFirst.isInfix {mark t before after : Text} (h : IsFirst mark t before after) :
    mark <:+: t := ⟨before, after, h.parts.symm⟩

theorem IsFirst.unique {mark t b a b' a' : Text} (h : IsFirst mark t b a)
    (h' : IsFirst mark t b' a') : b = b' ∧ a = a' := by
  have hle := h.least _ _ h'.parts
  have hge := h'.least _ _ h.parts
  have hlen : b.length = b'.length := by omega
  have heq : b ++ (mark ++ a) = b' ++ (mark ++ a') := by
    rw [← List.append_assoc, ← List.append_assoc, ← h.parts, ← h'.parts]
  obtain ⟨hb, ha⟩ := List.append_inj heq hlen
  exact ⟨hb, List.append_cancel_left ha⟩

/-- Before the first occurrence there is none. -/
theorem IsFirst.not_isInfix {mark t before after : Text} (h : IsFirst mark t before after)
    (hm : mark ≠ []) : ¬ mark <:+: before := by
  rintro ⟨b, a, hb⟩
  have hle := h.least b (a ++ mark ++ after) (by rw [h.parts, ← hb]; simp)
  have hlen := congrArg List.length hb
  simp only [List.length_append] at hlen
  have hpos := List.length_pos_of_ne_nil hm
  omega

/-- An occurrence stays the first one when a part of the text behind it is left out. -/
theorem IsFirst.shorten {mark t before x after : Text} (h : IsFirst mark t before (x ++ after)) :
    IsFirst mark (before ++ mark ++ x) before x := by
  refine ⟨rfl, ?_⟩
  intro b a hb
  apply h.least b (a ++ after)
  rw [h.parts, ← List.append_assoc, hb, List.append_assoc _ a]

theorem isFirst_of_cut? {mark t before after : Text} (h : cut? mark t = some (before, after)) :
    IsFirst mark t before after := by
  refine ⟨cut?_eq_some h, ?_⟩
  induction t generalizing before with
  | nil =>
    obtain ⟨rfl, -⟩ := List.append_eq_nil_iff.mp
      ((List.append_assoc ..).symm.trans (cut?_eq_some h).symm)
    exact fun _ _ _ => Nat.zero_le _
  | cons c t ih =>
    simp only [cut?] at h
    split at h
    · cases h
      exact fun _ _ _ => Nat.zero_le _
    · rename_i hp
      obtain ⟨⟨b', a'⟩, hc, he⟩ := Option.map_eq_some_iff.mp h
      cases he
      intro b a hba
      cases b with
      | nil => exact absurd ⟨a, hba.symm⟩ (after?_eq_none_iff.mp hp)
      | cons x b =>
        obtain ⟨rfl, ht⟩ := List.cons.inj hba
        exact Nat.succ_le_succ (ih hc b a ht)

theorem cut?_eq_none_iff {mark t : Text} : cut? mark t = none ↔ ¬ mark <:+: t := by
  constructor
  · induction t with
    | nil =>
      rintro h hm
      rw [List.infix_nil.mp hm] at h
      cases h
    | cons c t ih =>
      intro h hm
      simp only [cut?] at h
      split at h
      · cases h
      · rename_i hp
        rcases List.infix_cons_iff.mp hm with hm | hm
        · exact after?_eq_none_iff.mp hp hm
        · exact ih (Option.map_eq_none_iff.mp h) hm
  · intro hm
    cases h : cut? mark t with
    | none => rfl
    | some parts => exact absurd (isFirst_of_cut? h).isInfix hm

/-- `cut?` finds the first occurrence, and finds it wherever there is one. -/
theorem cut?_eq_some_iff {mark t before after : Text} :
    cut? mark t = some (before, after) ↔ IsFirst mark t before after := by
  constructor
  · exact isFirst_of_cut?
  · intro h
    cases hc : cut? mark t with
    | none => exact absurd h.isInfix (cut?_eq_none_iff.mp hc)
    | some parts =>
      obtain ⟨hb, ha⟩ := h.unique (isFirst_of_cut? hc)
      rw [hb, ha]

theorem exists_isFirst {mark t : Text} (h : mark <:+: t) :
    ∃ before after, IsFirst mark t before after := by
  cases hc : cut? mark t with
  | none => exact absurd h (cut?_eq_none_iff.mp hc)
  | some parts => exact ⟨_, _, isFirst_of_cut? hc⟩

/-! ## Marks whose copies cannot overlap -/

/-- Only the empty text and the whole of the mark stand both at its front and at its end. -/
def Unbordered (mark : Text) : Prop := ∀ p, p <+: mark → p <:+ mark → p = [] ∨ p = mark

instance (mark : Text) : Decidable (Unbordered mark) :=
  decidable_of_iff (∀ p ∈ mark.inits, p <:+ mark → p = [] ∨ p = mark) (by
    simp only [Unbordered, List.mem_inits])

/-- A mark without a border is first found behind a text that is free of it: an earlier copy would
overlap the one that stands there. -/
theorem isFirst_of_unbordered {mark front : Text} (hm : Unbordered mark) (hf : ¬ mark <:+: front)
    (t : Text) : IsFirst mark (front ++ mark ++ t) front t := by
  refine ⟨rfl, ?_⟩
  intro b a h
  by_contra hlt
  rw [List.append_assoc, List.append_assoc] at h
  obtain ⟨x, rfl, hx⟩ : ∃ x, front = b ++ x ∧ mark ++ a = x ++ (mark ++ t) := by
    rcases List.append_eq_append_iff.mp h with ⟨x, rfl, -⟩ | hx
    · exact absurd (by simp) hlt
    · exact hx
  -- the earlier copy ends inside the text in front, or inside the copy behind it
  rcases List.append_eq_append_iff.mp hx with ⟨y, rfl, -⟩ | ⟨y, hxy, hy⟩
  · exact hf ⟨b, y, by simp⟩
  · have hsuf : y <:+ mark := ⟨x, hxy.symm⟩
    have hpre : y <+: mark := by
      have hlen : y.length ≤ mark.length := by simp [hxy]
      exact List.prefix_of_prefix_length_le ⟨a, rfl⟩ ⟨t, hy⟩ hlen
    rcases hm y hpre hsuf with rfl | rfl
    · rw [List.append_nil] at hxy
      exact hf ⟨b, [], by simp [hxy]⟩
    · have : x = [] := by simpa using hxy
      subst this
      simp at hlt

/-- The same for a text that begins with such a mark. -/
theorem isFirst_of_prefix {mark raw front : Text} (hm : Unbordered mark) (hf : ¬ mark <:+: front)
    (hraw : mark <+: raw) (t : Text) : IsFirst raw (front ++ raw ++ t) front t := by
  obtain ⟨r, rfl⟩ := hraw
  refine ⟨rfl, ?_⟩
  intro b a h
  exact (isFirst_of_unbordered hm hf (r ++ t)).least b (r ++ a) (by simpa using h)

theorem cut?_of_unbordered {mark front : Text} (hm : Unbordered mark) (hf : ¬ mark <:+: front)
    (t : Text) : cut? mark (front ++ mark ++ t) = some (front, t) :=
  cut?_eq_some_iff.mpr (isFirst_of_unbordered hm hf t)

/-! ## Searching behind a foreign character -/

/-- A mark stands on one side of a character that it does not have. -/
theorem infix_append_cons_iff {mark a b : Text} {c : Char} (hc : c ∉ mark) :
    mark <:+: a ++ c :: b ↔ mark <:+: a ∨ mark <:+: b := by
  constructor
  · intro h
    rcases List.infix_append_iff_ne_nil.mp h with h | h | ⟨l, r, -, hr, rfl, -, hpre⟩
    · exact Or.inl h
    · rcases List.infix_cons_iff.mp h with h | h
      · rcases List.prefix_cons_iff.mp h with rfl | ⟨l, rfl, -⟩
        · exact Or.inl (List.nil_infix)
        · exact absurd List.mem_cons_self hc
      · exact Or.inr h
    · rcases List.prefix_cons_iff.mp hpre with rfl | ⟨l, rfl, -⟩
      · exact absurd rfl hr
      · exact absurd (by simp) hc
  · rintro (h | h)
    · exact h.trans (List.infix_append [] a (c :: b))
    · exact h.trans (List.IsSuffix.isInfix ⟨a ++ [c], by simp⟩)

theorem not_infix_append {mark front text : Text} (hm : mark ≠ [])
    (htext : ∀ c ∈ text, c ∉ mark) (hf : ¬ mark <:+: front) : ¬ mark <:+: front ++ text := by
  cases text with
  | nil => rwa [List.append_nil]
  | cons c text =>
    rw [infix_append_cons_iff (htext c List.mem_cons_self), not_or]
    refine ⟨hf, fun h => ?_⟩
    obtain ⟨m, more, rfl⟩ := List.exists_cons_of_ne_nil hm
    have hmem : m ∈ text := h.subset List.mem_cons_self
    exact htext m (List.mem_cons_of_mem _ hmem) List.mem_cons_self

/-- A mark is first found behind a text that has none of its characters, if it does not stand in
front of that text. -/
theorem isFirst_of_foreign {mark front text : Text} (hm : mark ≠ []) (hne : text ≠ [])
    (htext : ∀ c ∈ text, c ∉ mark) (hf : ¬ mark <:+: front) (t : Text) :
    IsFirst mark (front ++ text ++ mark ++ t) (front ++ text) t := by
  obtain ⟨init, c, rfl⟩ := (List.eq_nil_or_concat text).resolve_left hne
  rw [List.concat_eq_append] at htext ⊢
  have hinit : ¬ mark <:+: front ++ init :=
    not_infix_append hm (fun d hd => htext d (List.mem_append_left _ hd)) hf
  have hc : c ∉ mark := htext c (by simp)
  refine ⟨rfl, ?_⟩
  intro b a h
  by_contra hlt
  -- an earlier copy starts in front of `c`, and it can neither end there nor reach across
  have hparts : front ++ init ++ c :: (mark ++ t) = b ++ (mark ++ a) := by
    simpa only [List.append_assoc, List.cons_append, List.nil_append] using h
  rcases List.append_eq_append_iff.mp hparts with ⟨x, rfl, hx⟩ | ⟨x, hx, hrest⟩
  · cases x with
    | nil =>
      obtain ⟨m, more, rfl⟩ := List.exists_cons_of_ne_nil hm
      obtain ⟨rfl, -⟩ := List.cons.inj hx
      exact hc List.mem_cons_self
    | cons d x => simp at hlt
  · rcases List.append_eq_append_iff.mp hrest with ⟨y, rfl, -⟩ | ⟨y, hy, hrest⟩
    · exact hinit ⟨b, y, by rw [hx, List.append_assoc]⟩
    · cases y with
      | nil => exact hinit ⟨b, [], by rw [hx, hy]; simp⟩
      | cons d y =>
        obtain ⟨rfl, -⟩ := List.cons.inj hrest
        exact hc (by simp [hy])

end Stencil.Text
