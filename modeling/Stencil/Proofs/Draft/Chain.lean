import Stencil.Proofs.Chain.Calls
import Stencil.Proofs.Draft.Argument

/-!
# Reading written chains

Reading the chain of a written slot gives its calls. `Passes n s n'` says that the characters of `s`
stay in one part of a chain that is split from the place `n` on, and that `n'` is the place behind
them. A text that can be passed at some depth of parentheses, and leads back to that depth, crosses
it; arguments cross every depth but the top, and calls cross the top.

* `Call.crosses`: no arrow inside a call separates.
* `readCall_text`: a call is read back from its part of a chain.
* `cuts_calls`: a chain of written calls is cut between them.
-/

namespace Stencil.Draft

open Text Chain

/-! ## Staying in one part -/

variable {n n' n'' : Nesting} {depth : Nat} {s s' : Text}

/-- From the place `n` on no arrow in `s` separates, and `n'` is the place behind `s`. -/
def Passes (n : Nesting) (s : Text) (n' : Nesting) : Prop :=
  ∀ t, splitFrom n (s ++ t) = s.foldr glue (splitFrom n' t)

theorem Passes.append (h : Passes n s n') (h' : Passes n' s' n'') : Passes n (s ++ s') n'' := by
  intro t
  rw [List.append_assoc, h, h', List.foldr_append]

/-- One character that is not the start of an arrow at the top. -/
theorem passes_next {c : Char} (h : ¬ (n.atTop = true ∧ c = '-')) : Passes n [c] (n.next c) := by
  intro t
  cases t with
  | nil => rfl
  | cons d t =>
    have harrow : ¬ (n.atTop = true ∧ c = '-' ∧ d = '>') := by
      rintro ⟨htop, hc, -⟩
      exact h ⟨htop, hc⟩
    simp only [List.cons_append, List.nil_append, splitFrom, harrow, if_false, List.foldr_cons,
      List.foldr_nil]

/-- Inside a region nothing but its quote counts, so all of an escaped text is passed. -/
theorem passes_quoted {q : Char} (hq : Arguments.isQuote q = true) (seen rest : Text)
    (h : Escaped q (seen ++ rest)) :
    Passes ⟨depth, some q, (q :: seen).getLast?⟩ (rest ++ [q]) ⟨depth, none, some q⟩ := by
  -- inside a region no place is at the top, so dashes are passed too
  have htop : ∀ last c, ¬ ((Nesting.mk depth (some q) last).atTop = true ∧ c = '-') := by
    rintro last c ⟨h, -⟩
    simp [Nesting.atTop] at h
  induction rest generalizing seen with
  | nil =>
    rw [List.append_nil] at h
    have hnext := passes_next (htop (q :: seen).getLast? q)
    simpa only [Nesting.next, ne_eq, h.closed hq, not_false_eq_true, and_self, if_true,
      List.nil_append] using hnext
  | cons c rest ih =>
    have hnext := passes_next (htop (q :: seen).getLast? c)
    have htail := ih (seen ++ [c]) (by simpa using h)
    simp only [Nesting.next, h.open, if_false] at hnext
    rw [getLast?_region] at htail
    exact hnext.append htail

/-! ## Crossing a depth -/

/-- At this depth, outside quotes, `s` is passed and leads back to the depth. -/
def Crosses (depth : Nat) (s : Text) : Prop :=
  ∀ last, ∃ last', Passes ⟨depth, none, last⟩ s ⟨depth, none, last'⟩

theorem crosses_nil : Crosses depth [] := fun last => ⟨last, fun _ => rfl⟩

theorem Crosses.append (h : Crosses depth s) (h' : Crosses depth s') :
    Crosses depth (s ++ s') := by
  intro last
  obtain ⟨mid, hmid⟩ := h last
  obtain ⟨last', hlast⟩ := h' mid
  exact ⟨last', hmid.append hlast⟩

theorem Crosses.flatMap {α : Type} {l : List α} {f : α → Text} (h : ∀ a ∈ l, Crosses depth (f a)) :
    Crosses depth (l.flatMap f) := by
  induction l with
  | nil => exact crosses_nil
  | cons a l ih =>
    rw [List.flatMap_cons]
    exact (h a List.mem_cons_self).append (ih fun b hb => h b (List.mem_cons_of_mem _ hb))

theorem Crosses.join {sep : Text} (hsep : Crosses depth sep) {l : List Text}
    (h : ∀ t ∈ l, Crosses depth t) : Crosses depth (Text.join sep l) := by
  induction l with
  | nil => exact crosses_nil
  | cons t l ih =>
    have ht := h t List.mem_cons_self
    have htail := ih fun u hu => h u (List.mem_cons_of_mem _ hu)
    cases l with
    | nil => exact ht
    | cons u l => exact (ht.append hsep).append htail

/-- Characters without a meaning in a chain. The dash has one at the top only. -/
theorem crosses_plain (h : ∀ c ∈ s, Arguments.isQuote c = false ∧ c ≠ '(' ∧ c ≠ ')' ∧
    (depth = 0 → c ≠ '-')) : Crosses depth s := by
  induction s with
  | nil => exact crosses_nil
  | cons c s ih =>
    intro last
    obtain ⟨hquote, hopen, hclose, hdash⟩ := h c List.mem_cons_self
    obtain ⟨last', hlast⟩ := ih (fun x hx => h x (List.mem_cons_of_mem _ hx)) (some c)
    have hnext : Passes ⟨depth, none, last⟩ [c] ⟨depth, none, some c⟩ := by
      have hstep := @passes_next ⟨depth, none, last⟩ c (by
        rintro ⟨htop, hc⟩
        exact hdash (by simpa [Nesting.atTop] using htop) hc)
      simpa only [Nesting.next, hquote, Bool.false_and, Bool.false_eq_true, hopen, hclose,
        if_false] using hstep
    exact ⟨last', hnext.append hlast⟩

theorem crosses_quoted {q : Char} {inner : Text} (hq : Arguments.isQuote q = true)
    (h : Escaped q inner) (hd : 0 < depth) : Crosses depth (q :: (inner ++ [q])) := by
  intro last
  have hopen := @passes_next ⟨depth, none, last⟩ q (by
    rintro ⟨htop, -⟩
    simp only [Nesting.atTop, Bool.and_eq_true, beq_iff_eq] at htop
    exact absurd htop.1 hd.ne')
  simp only [Nesting.next, hq, hd, decide_true, Bool.and_self, if_true] at hopen
  exact ⟨some q, hopen.append (passes_quoted hq [] inner h)⟩

theorem Crosses.parenthesised (h : Crosses (depth + 1) s) :
    Crosses depth ('(' :: (s ++ [')'])) := by
  intro last
  obtain ⟨mid, hmid⟩ := h (some '(')
  have hopen : Passes ⟨depth, none, last⟩ ['('] ⟨depth + 1, none, some '('⟩ :=
    passes_next fun h => absurd h.2 (by decide)
  have hclose : Passes ⟨depth + 1, none, mid⟩ [')'] ⟨depth, none, some ')'⟩ :=
    passes_next fun h => absurd h.2 (by decide)
  exact ⟨some ')', hopen.append (hmid.append hclose)⟩

/-! ## Arguments and calls -/

theorem crosses_blank {t : Text} (h : ∀ c ∈ t, isBlank c = true) : Crosses (depth + 1) t := by
  apply crosses_plain
  intro c hc
  refine ⟨isQuote_of_isBlank (h c hc), ne_of_true_of_false (h c hc) (by decide),
    ne_of_true_of_false (h c hc) (by decide), ?_⟩
  intro hd
  omega

theorem Segment.crosses {s : Segment} (h : s.Valid) : Crosses (depth + 1) s.text := by
  cases s with
  | quoted q inner => exact crosses_quoted h.1 h.2 depth.succ_pos
  | plain run =>
    apply crosses_plain
    intro c hc
    obtain ⟨hquote, -, hopen, hclose, -⟩ := isPlain_iff.mp (h.2 c hc)
    refine ⟨hquote, hopen, hclose, ?_⟩
    intro hd
    omega

theorem Argument.crosses {a : Argument} (h : a.Valid) : Crosses (depth + 1) a.text := by
  have hmiddle : Crosses (depth + 1) (a.segments.flatMap Segment.text) :=
    Crosses.flatMap fun s hs => Segment.crosses (h.segments s hs)
  exact ((crosses_blank h.before).append hmiddle).append (crosses_blank h.after)

theorem crosses_arguments {args : List Argument} (h : ∀ a ∈ args, a.Valid) :
    Crosses (depth + 1) (join [','] (args.map Argument.text)) := by
  have hcomma : Crosses (depth + 1) [','] := by
    apply crosses_plain
    intro c hc
    obtain rfl := List.mem_singleton.mp hc
    exact ⟨by decide, by decide, by decide, fun _ => by decide⟩
  apply hcomma.join
  intro t ht
  obtain ⟨a, ha, rfl⟩ := List.mem_map.mp ht
  exact Argument.crosses (h a ha)

/-! ## Names -/

theorem isNamePart_of_isNameRest {c : Char} (h : isNameRest c = true) : isNamePart c = true := by
  simp only [isNameRest, Bool.or_eq_true, beq_iff_eq] at h
  rcases h with (h | rfl) | rfl
  · exact isNamePart_of_isAlphanum h
  · decide
  · decide

theorem identifier_of_isName {name : Text} (h : isName name = true) : Identifier name := by
  cases name with
  | nil => cases h
  | cons c rest =>
    obtain ⟨hstart, hrest⟩ := Bool.and_eq_true_iff.mp h
    refine ⟨c, rest, rfl, hstart, ?_⟩
    intro x hx
    exact isNamePart_of_isNameRest (List.all_eq_true.mp hrest x hx)

theorem crosses_identifier {name : Text} (h : Identifier name) : Crosses 0 name := by
  apply crosses_plain
  intro c hc
  have hpart := h.isNamePart c hc
  exact ⟨isQuote_of_isNamePart hpart, ne_of_true_of_false hpart (by decide),
    ne_of_true_of_false hpart (by decide), fun _ => ne_of_true_of_false hpart (by decide)⟩

/-! ## Calls -/

/-- No arrow inside a call separates. -/
theorem Call.crosses {c : Call} (hname : Identifier c.name) (hargs : ∀ a ∈ c.args, a.Valid) :
    Crosses 0 c.text := by
  unfold Call.text
  split
  · exact crosses_identifier hname
  · exact (crosses_identifier hname).append (crosses_arguments hargs).parenthesised

theorem readCall_text {c : Call} (hname : Identifier c.name) (hargs : ∀ a ∈ c.args, a.Valid) :
    readCall c.text = c.toCall := by
  unfold Call.text Call.toCall
  split
  · rename_i hnil
    rw [readCall_name hname, hnil, List.map_nil]
  · rename_i hne
    rw [readCall_arguments hname, read_arguments hne hargs]

/-! ## Calls as parts of a chain -/

theorem atTop_iff : n.atTop = true ↔ splitFrom n arrow = [[], []] := by
  constructor
  · intro h
    have harrow := splitFrom_arrow h []
    rwa [List.append_nil] at harrow
  · intro h
    by_contra htop
    have hwhole : Whole n arrow :=
      whole_cons_cons_iff.mpr ⟨fun hcut => htop hcut.1, whole_singleton _ _⟩
    rw [Whole, h] at hwhole
    exact absurd hwhole (by decide)

theorem Passes.whole (h : Passes n s n') : Whole n s := by
  have hsplit := h []
  rwa [splitFrom, foldr_glue, List.append_nil] at hsplit

theorem Passes.atTop (h : Passes n s n') : (s.foldl Nesting.next n).atTop = n'.atTop := by
  -- an arrow behind the text is cut off at both places or at none
  have hglue := h.whole.splitFrom_append (t := arrow) (by decide)
  have hsplit := splitFrom_eq_of_foldr_glue (hglue.symm.trans (h arrow))
  rw [Bool.eq_iff_iff, atTop_iff, atTop_iff, hsplit]

theorem Crosses.closed (h : Crosses 0 s) (last : Option Char) : Closed ⟨0, none, last⟩ s := by
  obtain ⟨last', hlast⟩ := h last
  exact ⟨hlast.whole, hlast.atTop⟩

theorem cuts_calls {calls : List Call} (hne : calls ≠ []) (h : ∀ c ∈ calls, c.Valid)
    (last : Option Char) : Cuts ⟨0, none, last⟩ (calls.map Call.text) := by
  induction calls generalizing last with
  | nil => exact absurd rfl hne
  | cons c more ih =>
    have hc := h c List.mem_cons_self
    have hclosed := (Call.crosses (identifier_of_isName hc.name) hc.args).closed last
    cases more with
    | nil => exact hclosed.whole
    | cons d more =>
      have htail := ih (List.cons_ne_nil _ _) fun e he => h e (List.mem_cons_of_mem _ he)
      exact ⟨hclosed, htail _⟩

end Stencil.Draft
