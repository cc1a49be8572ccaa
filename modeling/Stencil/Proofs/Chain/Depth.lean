import Stencil.Proofs.Chain.Splitting
import Stencil.Proofs.Text.Offset

/-!
# The top of a chain

Where a chain is cut, told by the characters in front of each place instead of by a running state.
`Reaches s depth quote` says how many parentheses are open behind the text `s` and in which quoted
region that place is; the places outside of both are at the top.

* `reaches_foldl`, `Reaches.foldl_eq`: reading a chain reaches one such place behind each text.
* `cuts_append_iff`: parts are the parts of two chains with an arrow at the top between them.
* `split_at_top`: a chain is cut at the arrows at the top and nowhere else, and each part is a slice
  of its characters.
-/

namespace Stencil.Chain

open Text

variable {n : Nesting} {depth : Nat} {quote : Option Char} {s t u : Text}

/-! ## Reading from the left -/

/-- Behind the text, read from the left, so many parentheses are open, and the place is in a region
of this quote. A closing parenthesis without an opening one changes nothing. A quote opens a region
inside parentheses only, and the next such quote without a backslash right before it closes the
region; everything else in it is hidden. -/
inductive Reaches : Text → Nat → Option Char → Prop
  | start : Reaches [] 0 none
  | opening {s : Text} {depth : Nat} (front : Reaches s depth none) :
      Reaches (s ++ ['(']) (depth + 1) none
  | closing {s : Text} {depth : Nat} (front : Reaches s depth none) :
      Reaches (s ++ [')']) (depth - 1) none
  | quote {s : Text} {depth : Nat} {q : Char} (front : Reaches s depth none) (inside : 0 < depth)
      (quote : Arguments.isQuote q = true) : Reaches (s ++ [q]) depth (some q)
  | plain {s : Text} {depth : Nat} {c : Char} (front : Reaches s depth none)
      (parenthesis : c ≠ '(' ∧ c ≠ ')') (quote : Arguments.isQuote c = true → depth = 0) :
      Reaches (s ++ [c]) depth none
  | unquote {s : Text} {depth : Nat} {q : Char} (front : Reaches s depth (some q))
      (bare : s.getLast? ≠ some '\\') : Reaches (s ++ [q]) depth none
  | hidden {s : Text} {depth : Nat} {q c : Char} (front : Reaches s depth (some q))
      (escaped : c = q → s.getLast? = some '\\') : Reaches (s ++ [c]) depth (some q)

/-- The place behind the text is outside all parentheses and quotes. -/
def AtTop (s : Text) : Prop := Reaches s 0 none

theorem next_inside (depth : Nat) (q : Char) (last : Option Char) (c : Char) :
    Nesting.next ⟨depth, some q, last⟩ c =
      ⟨depth, if c = q ∧ last ≠ some '\\' then none else some q, some c⟩ := rfl

theorem next_outside (depth : Nat) (last : Option Char) (c : Char) :
    Nesting.next ⟨depth, none, last⟩ c =
      if Arguments.isQuote c && 0 < depth then ⟨depth, some c, some c⟩
      else if c = '(' then ⟨depth + 1, none, some c⟩
      else if c = ')' then ⟨depth - 1, none, some c⟩
      else ⟨depth, none, some c⟩ := rfl

theorem foldl_concat (n : Nesting) (s : Text) (c : Char) :
    (s ++ [c]).foldl Nesting.next n = (s.foldl Nesting.next n).next c := by
  rw [List.foldl_append, List.foldl_cons, List.foldl_nil]

theorem last_next (n : Nesting) (c : Char) : (n.next c).last = some c := by
  unfold Nesting.next
  repeat' split
  all_goals rfl

theorem last_foldl (s : Text) : (s.foldl Nesting.next .start).last = s.getLast? := by
  induction s using List.reverseRecOn with
  | nil => rfl
  | append_singleton s c _ => rw [foldl_concat, last_next, List.getLast?_concat]

/-- One character more. -/
theorem Reaches.next (h : Reaches s depth quote) (c : Char) :
    Reaches (s ++ [c]) (Nesting.next ⟨depth, quote, s.getLast?⟩ c).depth
      (Nesting.next ⟨depth, quote, s.getLast?⟩ c).quote := by
  cases quote with
  | some q =>
    rw [next_inside]
    by_cases hclose : c = q ∧ s.getLast? ≠ some '\\'
    · simp only [if_pos hclose]
      obtain ⟨rfl, hbare⟩ := hclose
      exact h.unquote hbare
    · simp only [if_neg hclose]
      exact h.hidden fun hc => not_not.mp fun hbare => hclose ⟨hc, hbare⟩
  | none =>
    rw [next_outside]
    split
    · rename_i hopen
      rw [Bool.and_eq_true, decide_eq_true_eq] at hopen
      exact h.quote hopen.2 hopen.1
    · rename_i hopen
      rw [Bool.and_eq_true, decide_eq_true_eq, not_and, Nat.not_lt, Nat.le_zero] at hopen
      split
      · rename_i hc
        exact hc ▸ h.opening
      · rename_i hleft
        split
        · rename_i hc
          exact hc ▸ h.closing
        · rename_i hright
          exact h.plain ⟨hleft, hright⟩ hopen

/-- Reading reaches a place behind every text. -/
theorem reaches_foldl (s : Text) :
    Reaches s (s.foldl Nesting.next .start).depth (s.foldl Nesting.next .start).quote := by
  induction s using List.reverseRecOn with
  | nil => exact .start
  | append_singleton s c ih =>
    have hnext := ih.next c
    rw [← last_foldl s] at hnext
    rw [foldl_concat]
    exact hnext

/-- And it reaches no other place. -/
theorem Reaches.foldl_eq (h : Reaches s depth quote) :
    s.foldl Nesting.next .start = ⟨depth, quote, s.getLast?⟩ := by
  induction h with
  | start => rfl
  | @opening s depth front ih =>
    rw [foldl_concat, ih, List.getLast?_concat]
    rfl
  | @closing s depth front ih =>
    rw [foldl_concat, ih, List.getLast?_concat]
    rfl
  | @quote s depth q front inside quote ih =>
    rw [foldl_concat, ih, List.getLast?_concat]
    simp [Nesting.next, inside, quote]
  | @plain s depth c front parenthesis quote ih =>
    have hopen : ¬ (Arguments.isQuote c = true ∧ 0 < depth) :=
      fun h => absurd (quote h.1) h.2.ne'
    rw [foldl_concat, ih, List.getLast?_concat]
    simp [Nesting.next, parenthesis, hopen]
  | @unquote s depth q front bare ih =>
    rw [foldl_concat, ih, List.getLast?_concat]
    simp [Nesting.next, bare]
  | @hidden s depth q c front escaped ih =>
    have hopen : ¬ (c = q ∧ s.getLast? ≠ some '\\') := fun h => h.2 (escaped h.1)
    rw [foldl_concat, ih, List.getLast?_concat]
    simp only [Nesting.next, hopen, if_false]

theorem atTop_iff : AtTop s ↔ (s.foldl Nesting.next .start).atTop = true := by
  constructor
  · intro h
    rw [h.foldl_eq]
    rfl
  · intro h
    have hreaches := reaches_foldl s
    rw [Nesting.atTop, Bool.and_eq_true, beq_iff_eq, Option.isNone_iff_eq_none] at h
    rwa [h.1, h.2] at hreaches

/-! ## Parts of two chains -/

/-- Behind an arrow at the top, reading starts again. -/
theorem atTop_foldl_arrow (h : n.atTop = true) (t : Text) :
    ((arrow ++ t).foldl Nesting.next n).atTop = (t.foldl Nesting.next .behindArrow).atTop := by
  rw [arrow, List.cons_append, List.foldl_cons, next_dash h]
  exact atTop_foldl_last 0 (some '>') (some '-') t

theorem Cuts.ne_nil {parts : List Text} (h : Cuts n parts) : parts ≠ [] := by
  rintro rfl
  exact h

theorem Cuts.whole {part : Text} {more : List Text} (h : Cuts n (part :: more)) :
    Whole n part := by
  cases more with
  | nil => exact h
  | cons next more => exact h.1.whole

/-- Two lists of parts are the parts of one chain exactly if they are those of two chains, the first
of which ends at the top. -/
theorem cuts_append_iff {front back : List Text} (hfront : front ≠ []) (hback : back ≠ []) :
    Cuts n (front ++ back) ↔ Cuts n front ∧
      ((join arrow front).foldl Nesting.next n).atTop = true ∧ Cuts .behindArrow back := by
  induction front generalizing n with
  | nil => exact absurd rfl hfront
  | cons part more ih =>
    cases more with
    | nil =>
      -- the boundary is behind this part, which is closed there exactly if it ends at the top
      obtain ⟨first, back, rfl⟩ := List.exists_cons_of_ne_nil hback
      constructor
      · exact fun h => ⟨h.1.whole, h.1.atTop, h.2⟩
      · exact fun h => ⟨⟨h.1, h.2.1⟩, h.2.2⟩
    | cons next more =>
      have hjoin : Closed n part →
          ((join arrow (part :: next :: more)).foldl Nesting.next n).atTop =
            ((join arrow (next :: more)).foldl Nesting.next .behindArrow).atTop := by
        intro hpart
        rw [join, List.append_assoc, List.foldl_append, atTop_foldl_arrow hpart.atTop]
        exact List.cons_ne_nil _ _
      have hmore := @ih .behindArrow (List.cons_ne_nil _ _)
      constructor
      · rintro ⟨hpart, hcuts⟩
        obtain ⟨hfront, htop, hback⟩ := hmore.mp hcuts
        exact ⟨⟨hpart, hfront⟩, (hjoin hpart).trans htop, hback⟩
      · rintro ⟨⟨hpart, hfront⟩, htop, hback⟩
        exact ⟨hpart, hmore.mpr ⟨hfront, (hjoin hpart).symm.trans htop, hback⟩⟩

/-- A text that is not cut has no arrow at the top. -/
theorem Whole.atTop_ne_true {a b : Text} (h : Whole n (a ++ arrow ++ b)) :
    (a.foldl Nesting.next n).atTop ≠ true := by
  intro htop
  rw [List.append_assoc] at h
  have hback := h.of_append_right
  rw [Whole, splitFrom_arrow htop] at hback
  cases hback

theorem cuts_split (t : Text) : Cuts .start (split t) := cuts_splitFrom .start t

theorem split_eq_splitFrom (t : Text) : split t = splitFrom .behindArrow t :=
  splitFrom_last 0 none (some '-') t

/-- An arrow at the top cuts a chain into two, each of which is split on its own. -/
theorem AtTop.split_append (h : AtTop s) (u : Text) :
    split (s ++ arrow ++ u) = split s ++ split u := by
  have hs : split s ≠ [] := (cuts_split s).ne_nil
  have hu : split u ≠ [] := (cuts_split u).ne_nil
  have hjoin : join arrow (split s ++ split u) = s ++ arrow ++ u := by
    rw [join_append arrow hs hu, split, split, join_splitFrom, join_splitFrom]
  have hcuts : Cuts .start (split s ++ split u) := by
    refine (cuts_append_iff hs hu).mpr ⟨cuts_split s, ?_, ?_⟩
    · rw [split, join_splitFrom]
      exact atTop_iff.mp h
    · rw [split_eq_splitFrom u]
      exact cuts_splitFrom .behindArrow u
  rw [← hjoin]
  exact splitFrom_join hcuts

/-! ## Slices -/

/-- What stands in front of a part: the parts before it, each with the arrow behind it. -/
def before (front : List Text) : Text := front.flatMap (· ++ arrow)

theorem arrow_append_before (front : List Text) :
    arrow ++ before front = front.flatMap (arrow ++ ·) ++ arrow := by
  induction front with
  | nil => rfl
  | cons part front ih =>
    rw [before] at ih
    rw [before, List.flatMap_cons, List.flatMap_cons, List.append_assoc part, ih]
    simp only [List.append_assoc]

theorem before_eq_join {front : List Text} (h : front ≠ []) :
    before front = join arrow front ++ arrow := by
  obtain ⟨part, front, rfl⟩ := List.exists_cons_of_ne_nil h
  rw [join_cons, List.append_assoc, ← arrow_append_before, before, List.flatMap_cons,
    List.append_assoc]
  rfl

theorem join_append_cons (front : List Text) (part : Text) (back : List Text) :
    join arrow (front ++ part :: back) = before front ++ part ++ back.flatMap (arrow ++ ·) := by
  cases front with
  | nil => rw [List.nil_append, join_cons, before, List.flatMap_nil, List.nil_append]
  | cons first front =>
    rw [join_append arrow (List.cons_ne_nil _ _) (List.cons_ne_nil _ _), join_cons _ part,
      before_eq_join (List.cons_ne_nil _ _), List.append_assoc (_ ++ arrow)]

theorem not_atTop_of_arrow_infix {front : List Text} {part a b : Text} {back : List Text}
    (h : split t = front ++ part :: back) (hpart : part = a ++ arrow ++ b) :
    ¬ AtTop (before front ++ a) := by
  intro htop
  rw [atTop_iff, List.foldl_append] at htop
  have hcuts := cuts_split t
  rw [h] at hcuts
  by_cases hfront : front = []
  · subst hfront
    exact (hpart ▸ hcuts.whole : Whole _ (a ++ arrow ++ b)).atTop_ne_true htop
  · obtain ⟨-, hend, hback⟩ := (cuts_append_iff hfront (List.cons_ne_nil _ _)).mp hcuts
    rw [before_eq_join hfront, List.foldl_append, ← List.foldl_append,
      atTop_foldl_arrow hend] at htop
    exact (hpart ▸ hback.whole : Whole _ (a ++ arrow ++ b)).atTop_ne_true htop

/-- **Where a chain is cut.** Joined by arrows, the parts are the chain again. The arrows between
them are exactly those that stand at the top of the chain, and no part has such an arrow in it. In
bytes, each part begins and ends where a character does, and is what stands there. -/
theorem split_at_top (t : Text) :
    join arrow (split t) = t ∧
    (∀ s u, t = s ++ arrow ++ u → (AtTop s ↔ ∃ front back, front ≠ [] ∧ back ≠ [] ∧
      split t = front ++ back ∧ s = join arrow front ∧ u = join arrow back)) ∧
    ∀ front part back, split t = front ++ part :: back →
      (∀ a b, part = a ++ arrow ++ b → ¬ AtTop (before front ++ a)) ∧
      (String.Pos.Raw.mk (before front).size).IsValid (String.ofList t) ∧
      (String.Pos.Raw.mk (before front ++ part).size).IsValid (String.ofList t) ∧
      between (before front).size (before front ++ part).size t = part := by
  have hjoin : join arrow (split t) = t := join_splitFrom .start t
  refine ⟨hjoin, ?_, ?_⟩
  · rintro s u rfl
    constructor
    · intro htop
      refine ⟨split s, split u, (cuts_split s).ne_nil, (cuts_split u).ne_nil, htop.split_append u,
        ?_, ?_⟩
      · exact (join_splitFrom .start s).symm
      · exact (join_splitFrom .start u).symm
    · rintro ⟨front, back, hfront, hback, hsplit, rfl, -⟩
      have hcuts := cuts_split (join arrow front ++ arrow ++ u)
      rw [hsplit] at hcuts
      exact atTop_iff.mpr ((cuts_append_iff hfront hback).mp hcuts).2.1
  · intro front part back hsplit
    have htext : t = before front ++ part ++ back.flatMap (arrow ++ ·) := by
      rw [← join_append_cons, ← hsplit, hjoin]
    refine ⟨fun a b hpart => not_atTop_of_arrow_infix hsplit hpart, ?_, ?_, ?_⟩
    · rw [htext, List.append_assoc]
      exact isValid_size _ _
    · rw [htext]
      exact isValid_size _ _
    · rw [htext]
      exact between_append _ _ _ rfl (size_append _ _)

/-- An arrow and a parenthesis in a region behind a character of two bytes, then an empty part, and
an arrow behind a dash. -/
theorem split_at_top_quoted :
    let call := "é('->\\')')".toList
    let chain := call ++ "->->-->".toList
    split chain = [call, [], ['-'], []] ∧ AtTop call ∧ ¬ AtTop "é('".toList ∧
      join arrow [call, [], ['-'], []] = chain ∧ between 15 16 chain = ['-'] := by
  intro call chain
  have hsplit : split chain = [call, [], ['-'], []] := by decide
  obtain ⟨hjoin, hcut, hparts⟩ := split_at_top chain
  refine ⟨hsplit, ?_, ?_, hsplit ▸ hjoin, (hparts [call, []] ['-'] [[]] hsplit).2.2.2⟩
  · exact (hcut call "->-->".toList rfl).mpr ⟨[call], [[], ['-'], []], by simp, by simp, hsplit,
      rfl, rfl⟩
  · exact (hparts [] call _ hsplit).1 "é('".toList "\\')')".toList rfl

end Stencil.Chain
