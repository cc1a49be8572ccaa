import Stencil.Proofs.Text.Occurrence
import Mathlib.Order.Bounds.Basic

/-!
# Byte offsets

A text is addressed by byte offsets, as tokens do it: `Text.skip` and `Text.keep` cut at an offset,
`Text.between` is the part between two of them, and `Text.FirstFrom` says where the first occurrence
of a mark at or behind an offset starts.

* `Text.skip_size_append`, `Text.keep_size_append`, `Text.between_append` read these off a text that
  is given in parts.
* `Text.IsFirst.firstFrom` and `Text.IsFirst.firstFrom_succ` turn a cut into a first offset.
-/

namespace Stencil.Text

/-! ## Cutting at an offset -/

/-- The text without the characters that start before byte `n`. -/
def skip (n : Nat) : Text → Text
  | [] => []
  | c :: t => if n = 0 then c :: t else skip (n - c.utf8Size) t

/-- The characters of a text that start before byte `n`. -/
def keep (n : Nat) : Text → Text
  | [] => []
  | c :: t => if n = 0 then [] else c :: keep (n - c.utf8Size) t

/-- The part of a text from byte `a` to byte `b`. It is empty if `b` is not behind `a`. -/
def between (a b : Nat) (t : Text) : Text := keep (b - a) (skip a t)

@[simp] theorem keep_zero (t : Text) : keep 0 t = [] := by
  cases t <;> simp [keep]

@[simp] theorem skip_zero (t : Text) : skip 0 t = t := by
  cases t <;> simp [skip]

@[simp] theorem skip_size_append (s t : Text) : skip s.size (s ++ t) = t := by
  induction s with
  | nil => exact skip_zero t
  | cons c s ih =>
    have hc := c.utf8Size_pos
    have hne : c.utf8Size + size s ≠ 0 := by omega
    simp only [List.cons_append, size_cons, skip, hne, if_false, Nat.add_sub_cancel_left]
    exact ih

@[simp] theorem keep_size_append (s t : Text) : keep s.size (s ++ t) = s := by
  induction s with
  | nil => exact keep_zero t
  | cons c s ih =>
    have hc := c.utf8Size_pos
    have hne : c.utf8Size + size s ≠ 0 := by omega
    simp only [List.cons_append, size_cons, keep, hne, if_false, Nat.add_sub_cancel_left]
    rw [ih]

theorem between_append (a b c : Text) {m n : Nat} (hm : m = a.size) (hn : n = a.size + b.size) :
    between m n (a ++ b ++ c) = b := by
  subst hm hn
  rw [between, List.append_assoc, skip_size_append, Nat.add_sub_cancel_left, keep_size_append]

theorem between_of_le {a b : Nat} (h : b ≤ a) (t : Text) : between a b t = [] := by
  rw [between, Nat.sub_eq_zero_of_le h, keep_zero]

theorem skip_suffix (n : Nat) (t : Text) : skip n t <:+ t := by
  induction t generalizing n with
  | nil => exact List.suffix_rfl
  | cons c t ih =>
    rw [skip]
    split
    · exact List.suffix_rfl
    · exact (ih _).trans (List.suffix_cons c t)

/-! ## Sizes of parts -/

theorem size_eq_zero_iff {t : Text} : t.size = 0 ↔ t = [] := by
  cases t with
  | nil => simp
  | cons c t =>
    have hc := c.utf8Size_pos
    simp only [size_cons, reduceCtorEq, iff_false]
    omega

theorem size_mono {s t : Text} (h : s <+: t) : s.size ≤ t.size := by
  obtain ⟨r, rfl⟩ := h
  simp

theorem utf8ByteSize_ofList (t : Text) : (String.ofList t).utf8ByteSize = t.size := by
  induction t with
  | nil => rfl
  | cons c t ih =>
    rw [← List.singleton_append, String.ofList_append, String.utf8ByteSize_append, ih]
    simp

/-- Behind a part of a text, a character begins or the text ends. -/
theorem isValid_size (s t : Text) :
    (String.Pos.Raw.mk s.size).IsValid (String.ofList (s ++ t)) := by
  refine String.Pos.Raw.isValid_iff_exists_append.mpr
    ⟨String.ofList s, String.ofList t, String.ofList_append, ?_⟩
  rw [← utf8ByteSize_ofList]
  rfl

theorem prefix_of_size_le {s s' t : Text} (h : s <+: t) (h' : s' <+: t) (hle : s.size ≤ s'.size) :
    s <+: s' := by
  rcases List.prefix_or_prefix_of_prefix h h' with hp | ⟨r, rfl⟩
  · exact hp
  · rw [size_append] at hle
    have hr : r = [] := size_eq_zero_iff.mp (by omega)
    rw [hr, List.append_nil]

theorem size_le_of_length_le {s s' t : Text} (h : s <+: t) (h' : s' <+: t)
    (hle : s.length ≤ s'.length) : s.size ≤ s'.size :=
  size_mono (List.prefix_of_prefix_length_le h h' hle)

/-! ## Occurrences at an offset -/

/-- `mark` stands in `t` at byte `p`, where a character of `t` starts. -/
def OccursAt (mark t : Text) (p : Nat) : Prop :=
  ∃ before after, t = before ++ mark ++ after ∧ before.size = p

/-- `p` is the smallest offset from `e` on at which `mark` stands in `t`. -/
def FirstFrom (mark t : Text) (e p : Nat) : Prop := IsLeast {q | e ≤ q ∧ OccursAt mark t q} p

/-- An occurrence that does not start before the end of `front` is one in what follows it. -/
theorem OccursAt.behind {mark front t : Text} {q : Nat} (h : OccursAt mark (front ++ t) q)
    (hq : front.size ≤ q) : ∃ b a, t = b ++ mark ++ a ∧ q = front.size + b.size := by
  obtain ⟨b, a, ht, rfl⟩ := h
  have hb : b <+: front ++ t := ⟨mark ++ a, by rw [ht, List.append_assoc]⟩
  obtain ⟨b', rfl⟩ := prefix_of_size_le (List.prefix_append front t) hb hq
  refine ⟨b', a, ?_, by simp⟩
  simpa using ht

/-- An occurrence that starts behind the first byte of a character starts behind all of it. -/
theorem OccursAt.size_le_of_lt {mark front t : Text} {c : Char} {q : Nat}
    (h : OccursAt mark (front ++ c :: t) q) (hq : front.size < q) :
    front.size + c.utf8Size ≤ q := by
  obtain ⟨b, a, ht, rfl⟩ := h.behind (Nat.le_of_lt hq)
  cases b with
  | nil => simp at hq
  | cons x b =>
    obtain ⟨rfl, -⟩ := List.cons.inj ht
    simp

theorem IsFirst.firstFrom {mark t before after : Text} (h : IsFirst mark t before after)
    (front : Text) : FirstFrom mark (front ++ t) front.size (front.size + before.size) := by
  constructor
  · refine ⟨Nat.le_add_right _ _, front ++ before, after, ?_, by simp⟩
    rw [h.parts]
    simp
  · rintro q ⟨hq, hocc⟩
    obtain ⟨b, a, ht, rfl⟩ := hocc.behind hq
    have hlen := h.least b a ht
    have hb : before <+: t := ⟨mark ++ after, by rw [h.parts, List.append_assoc]⟩
    have hb' : b <+: t := ⟨mark ++ a, by rw [ht, List.append_assoc]⟩
    have hsize := size_le_of_length_le hb hb' hlen
    omega

/-- The same when the search starts anywhere behind the first byte of a character and that character
is skipped. -/
theorem IsFirst.firstFrom_succ {mark t before after : Text} (h : IsFirst mark t before after)
    (front : Text) (c : Char) :
    FirstFrom mark (front ++ c :: t) (front.size + 1)
      (front.size + c.utf8Size + before.size) := by
  have hfirst := h.firstFrom (front ++ [c])
  simp only [size_append, size_cons, size_nil, Nat.add_zero, List.append_assoc,
    List.cons_append, List.nil_append] at hfirst
  have hc := c.utf8Size_pos
  refine ⟨⟨?_, hfirst.1.2⟩, ?_⟩
  · have := hfirst.1.1
    omega
  · rintro q ⟨hq, hocc⟩
    exact hfirst.2 ⟨hocc.size_le_of_lt hq, hocc⟩

end Stencil.Text
