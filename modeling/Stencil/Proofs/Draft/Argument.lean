import Stencil.Proofs.Draft.Basic
import Stencil.Proofs.Text.Character

/-!
# Reading written arguments

Reading the argument list of a written call gives the values of its arguments. `Sorts s ms` says
that the characters of `s`, outside all regions, are sorted into the marks `ms` whatever stands
around them; each piece of an argument has its marks, and pieces that follow each other have the
marks of both.

* `Escaped.open`, `Escaped.closed`: where the region of a quoted text is open and where it ends.
* `Argument.sorts`, `Argument.argument_marks`: the marks of an argument, and what they stand for.
* `read_arguments`: a written argument list is read back.
-/

namespace Stencil.Draft

open Text Arguments

/-! ## Regions -/

/-- Inside an escaped text no character closes the region. -/
theorem Escaped.open {q c : Char} {seen rest : Text} (h : Escaped q (seen ++ c :: rest)) :
    ¬ (c = q ∧ (q :: seen).getLast? ≠ some '\\') := by
  rintro ⟨rfl, hlast⟩
  have hback := h.1 seen ⟨rest, by simp⟩
  cases seen with
  | nil => cases hback
  | cons x seen =>
    rw [List.getLast?_cons_cons] at hlast
    exact hlast hback

/-- At the end of an escaped text the quote closes the region. -/
theorem Escaped.closed {q : Char} {t : Text} (hq : isQuote q = true) (h : Escaped q t) :
    (q :: t).getLast? ≠ some '\\' := by
  cases t with
  | nil =>
    intro he
    obtain rfl : q = '\\' := Option.some.inj he
    cases hq
  | cons x t =>
    rw [List.getLast?_cons_cons]
    exact h.2

theorem getLast?_region (q c : Char) (seen : Text) : (q :: (seen ++ [c])).getLast? = some c := by
  rw [← List.cons_append, List.getLast?_concat]

/-- Within the region of `q`, behind the part `seen` of a quoted text, the rest of the text is read
as inside the region and the quote behind it closes it. -/
theorem marksFrom_quoted {q : Char} (hq : isQuote q = true) (seen rest t : Text)
    (h : Escaped q (seen ++ rest)) :
    marksFrom (some q) (q :: seen).getLast? (rest ++ q :: t) =
      rest.map Mark.inside ++ .quote :: marksFrom none (some q) t := by
  induction rest generalizing seen with
  | nil =>
    rw [List.append_nil] at h
    simp only [List.nil_append, List.map_nil, marksFrom, ne_eq, h.closed hq, not_false_eq_true,
      and_self, if_true]
  | cons c rest ih =>
    have hopen := h.open
    have htail := ih (seen ++ [c]) (by simpa using h)
    rw [getLast?_region] at htail
    simp only [List.cons_append, List.map_cons, marksFrom, hopen, if_false, htail]

/-! ## Marks of a part -/

/-- Outside all regions, the characters of `s` are sorted into `ms`, and the place behind them is
outside all regions again. -/
def Sorts (s : Text) (ms : List Mark) : Prop :=
  ∀ last t, ∃ last', marksFrom none last (s ++ t) = ms ++ marksFrom none last' t

theorem sorts_nil : Sorts [] [] := fun last _ => ⟨last, rfl⟩

theorem Sorts.append {s s' : Text} {ms ms' : List Mark} (h : Sorts s ms) (h' : Sorts s' ms') :
    Sorts (s ++ s') (ms ++ ms') := by
  intro last t
  obtain ⟨mid, hmid⟩ := h last (s' ++ t)
  obtain ⟨last', hlast⟩ := h' mid t
  exact ⟨last', by rw [List.append_assoc, hmid, hlast, List.append_assoc]⟩

theorem Sorts.flatMap {α : Type} {l : List α} {f : α → Text} {g : α → List Mark}
    (h : ∀ a ∈ l, Sorts (f a) (g a)) : Sorts (l.flatMap f) (l.flatMap g) := by
  induction l with
  | nil => exact sorts_nil
  | cons a l ih =>
    rw [List.flatMap_cons, List.flatMap_cons]
    exact (h a List.mem_cons_self).append (ih fun b hb => h b (List.mem_cons_of_mem _ hb))

theorem sorts_outside {s : Text} (h : ∀ c ∈ s, isQuote c = false) :
    Sorts s (s.map Mark.outside) := by
  induction s with
  | nil => exact sorts_nil
  | cons c s ih =>
    intro last t
    obtain ⟨last', hlast⟩ := ih (fun x hx => h x (List.mem_cons_of_mem _ hx)) (some c) t
    refine ⟨last', ?_⟩
    simp only [List.cons_append, marksFrom, h c List.mem_cons_self, Bool.false_eq_true, if_false,
      hlast, List.map_cons]

theorem sorts_quoted {q : Char} {inner : Text} (hq : isQuote q = true) (h : Escaped q inner) :
    Sorts (q :: (inner ++ [q])) (.quote :: (inner.map Mark.inside ++ [.quote])) := by
  intro last t
  have hin := marksFrom_quoted hq [] inner t h
  refine ⟨some q, ?_⟩
  simp only [List.cons_append, List.append_assoc, List.nil_append, marksFrom, hq, if_true]
  exact congrArg _ hin

/-! ## Marks of an argument -/

/-- The marks of a segment. -/
def Segment.marks : Segment → List Mark
  | .quoted _ inner => .quote :: (inner.map .inside ++ [.quote])
  | .plain run => run.map .outside

def Argument.marks (a : Argument) : List Mark :=
  a.before.map .outside ++ a.segments.flatMap Segment.marks ++ a.after.map .outside

theorem isPlain_iff {c : Char} : isPlain c = true ↔
    isQuote c = false ∧ c ≠ ',' ∧ c ≠ '(' ∧ c ≠ ')' ∧ isBlank c = false := by
  simp only [isPlain, Bool.and_eq_true, Bool.not_eq_true', bne_iff_ne, and_assoc]

theorem Segment.sorts {s : Segment} (h : s.Valid) : Sorts s.text s.marks := by
  cases s with
  | quoted q inner => exact sorts_quoted h.1 h.2
  | plain run => exact sorts_outside fun c hc => (isPlain_iff.mp (h.2 c hc)).1

theorem Argument.sorts {a : Argument} (h : a.Valid) : Sorts a.text a.marks := by
  have hbefore := sorts_outside fun c hc => isQuote_of_isBlank (h.before c hc)
  have hafter := sorts_outside fun c hc => isQuote_of_isBlank (h.after c hc)
  have hmiddle : Sorts (a.segments.flatMap Segment.text) (a.segments.flatMap Segment.marks) := by
    apply Sorts.flatMap
    intro s hs
    exact Segment.sorts (h.segments s hs)
  exact (hbefore.append hmiddle).append hafter

theorem Segment.comma_notMem_marks {s : Segment} (h : s.Valid) : Mark.outside ',' ∉ s.marks := by
  cases s with
  | quoted q inner => simp [Segment.marks]
  | plain run =>
    intro hm
    obtain ⟨c, hc, he⟩ := List.mem_map.mp hm
    exact (isPlain_iff.mp (h.2 c hc)).2.1 (Mark.outside.inj he)

theorem Argument.comma_notMem_marks {a : Argument} (h : a.Valid) : Mark.outside ',' ∉ a.marks := by
  have hblank : ∀ t : Text, (∀ c ∈ t, isBlank c = true) →
      Mark.outside ',' ∉ t.map Mark.outside := by
    intro t ht hm
    obtain ⟨c, hc, he⟩ := List.mem_map.mp hm
    exact ne_of_true_of_false (ht c hc) (by decide) (Mark.outside.inj he)
  simp only [Argument.marks, List.mem_append, not_or]
  refine ⟨⟨hblank _ h.before, ?_⟩, hblank _ h.after⟩
  intro hm
  obtain ⟨s, hs, hm⟩ := List.mem_flatMap.mp hm
  exact Segment.comma_notMem_marks (h.segments s hs) hm

/-! ## What the marks stand for -/

/-- The marks of a segment that contribute characters. -/
def Segment.core : Segment → List Mark
  | .quoted _ inner => inner.map .inside
  | .plain run => run.map .outside

theorem Segment.filter_marks (s : Segment) : s.marks.filter (· ≠ .quote) = s.core := by
  have hinside : ∀ t : Text, (t.map Mark.inside).filter (· ≠ .quote) = t.map .inside := by
    intro t
    exact List.filter_eq_self.mpr (by simp)
  have houtside : ∀ t : Text, (t.map Mark.outside).filter (· ≠ .quote) = t.map .outside := by
    intro t
    exact List.filter_eq_self.mpr (by simp)
  cases s with
  | quoted q inner => simp [Segment.marks, Segment.core]
  | plain run => exact houtside run

theorem Segment.isPadding_core {s : Segment} (h : s.Valid) : ∀ m ∈ s.core, m.isPadding = false := by
  intro m hm
  cases s with
  | quoted q inner =>
    obtain ⟨c, -, rfl⟩ := List.mem_map.mp hm
    rfl
  | plain run =>
    obtain ⟨c, hc, rfl⟩ := List.mem_map.mp hm
    exact (isPlain_iff.mp (h.2 c hc)).2.2.2.2

theorem Segment.filterMap_core (s : Segment) : s.core.filterMap Mark.char? = s.value := by
  cases s with
  | quoted q inner =>
    rw [Segment.core, List.filterMap_map]
    exact List.filterMap_some
  | plain run =>
    rw [Segment.core, List.filterMap_map]
    exact List.filterMap_some

/-- The marks of an argument stand for its value. -/
theorem Argument.argument_marks {a : Argument} (h : a.Valid) : argument a.marks = a.value := by
  have hpad : ∀ t : Text, (∀ c ∈ t, isBlank c = true) →
      ∀ m ∈ (t.map Mark.outside).filter (· ≠ .quote), m.isPadding = true := by
    intro t ht m hm
    obtain ⟨c, hc, rfl⟩ := List.mem_map.mp (List.mem_of_mem_filter hm)
    exact ht c hc
  have hcore : (a.segments.flatMap Segment.marks).filter (· ≠ .quote) =
      a.segments.flatMap Segment.core := by
    rw [List.filter_flatMap]
    congr 1
    ext1 s
    exact s.filter_marks
  rw [argument, Argument.marks, List.filter_append, List.filter_append, hcore,
    trimBy_append (hpad _ h.before) (hpad _ h.after), trimBy_of_forall, List.filterMap_flatMap,
    Argument.value]
  · congr 1
    ext1 s
    exact s.filterMap_core
  · intro m hm
    obtain ⟨s, hs, hm⟩ := List.mem_flatMap.mp hm
    exact Segment.isPadding_core (h.segments s hs) m hm

/-- A written argument is kept even where an empty one is dropped: it has a character or a quote. -/
theorem Argument.kept {a : Argument} (h : a.Valid) :
    ¬ (argument a.marks = [] ∧ Mark.quote ∉ a.marks) := by
  rintro ⟨hvalue, hquote⟩
  obtain ⟨s, more, hs⟩ := List.exists_cons_of_ne_nil h.segments_ne_nil
  have hvalid := h.segments s (by rw [hs]; exact List.mem_cons_self)
  rw [a.argument_marks h, Argument.value, hs, List.flatMap_cons, List.append_eq_nil_iff] at hvalue
  cases s with
  | quoted q inner => exact hquote (by simp [Argument.marks, hs, Segment.marks])
  | plain run => exact hvalid.1 hvalue.1

/-! ## Argument lists -/

theorem pieces_marksFrom (a : Argument) (more : List Argument) (h : ∀ b ∈ a :: more, b.Valid)
    (last : Option Char) :
    pieces (marksFrom none last (join [','] ((a :: more).map Argument.text))) =
      (a :: more).map Argument.marks := by
  induction more generalizing a last with
  | nil =>
    have ha := h a List.mem_cons_self
    obtain ⟨last', hlast⟩ := Argument.sorts ha last []
    rw [List.append_nil] at hlast
    simp only [List.map_cons, List.map_nil, join, hlast, marksFrom, List.append_nil]
    exact splitAt_of_notMem (Argument.comma_notMem_marks ha)
  | cons b more ih =>
    have ha := h a List.mem_cons_self
    obtain ⟨last', hlast⟩ := Argument.sorts ha last
      (',' :: join [','] ((b :: more).map Argument.text))
    have hjoin : join [','] ((a :: b :: more).map Argument.text) =
        a.text ++ ',' :: join [','] ((b :: more).map Argument.text) := by
      simp only [List.map_cons, join, List.append_assoc, List.cons_append, List.nil_append]
    have hcomma : isQuote ',' = false := by decide
    rw [hjoin, hlast]
    simp only [marksFrom, hcomma, Bool.false_eq_true, if_false]
    rw [pieces, splitAt_append_cons (Argument.comma_notMem_marks ha), List.map_cons]
    exact congrArg _ (ih b (fun c hc => h c (List.mem_cons_of_mem _ hc)) _)

theorem arguments_marks (a : Argument) (more : List Argument) (h : ∀ b ∈ a :: more, b.Valid) :
    arguments ((a :: more).map Argument.marks) = (a :: more).map Argument.value := by
  induction more generalizing a with
  | nil =>
    have ha := h a List.mem_cons_self
    rw [List.map_cons, List.map_nil, arguments, if_neg (Argument.kept ha),
      Argument.argument_marks ha]
    rfl
  | cons b more ih =>
    have ha := h a List.mem_cons_self
    have htail := ih b fun c hc => h c (List.mem_cons_of_mem _ hc)
    simp only [List.map_cons] at htail ⊢
    rw [arguments, Argument.argument_marks ha, htail]
    simp

/-- A written argument list is read back as the values of its arguments. -/
theorem read_arguments {args : List Argument} (hne : args ≠ []) (h : ∀ a ∈ args, a.Valid) :
    Arguments.read (join [','] (args.map Argument.text)) = args.map Argument.value := by
  obtain ⟨a, more, rfl⟩ := List.exists_cons_of_ne_nil hne
  rw [Arguments.read, Arguments.marks, pieces_marksFrom a more h, arguments_marks a more h]

end Stencil.Draft
