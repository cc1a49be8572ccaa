import Stencil.Arguments
import Stencil.Proofs.Text.Parts
import Mathlib.Data.Nat.Find

/-!
# Argument lists by their regions

What an argument list says, told by its quoted regions instead of character by character. `Divides`
divides a text into regions and the characters outside of them: a quote outside all regions opens
one, and the next such quote that no backslash stands right before closes it. The text is cut at the
commas outside, `StandsFor` is the argument of one piece, and `Lists` says which pieces give an
argument.

* `exists_divides`, `Divides.marksFrom_eq`: every text is divided, and reading sorts its characters
  accordingly.
* `StandsFor.argument_eq`, `standsFor_argument`: what a piece stands for, from its ends inwards.
* `read_eq_iff_lists`: reading gives the arguments of the pieces, and may be split at a comma
  outside.
-/

namespace Stencil.Arguments

open Text

/-! ## Regions -/

/-- In a text behind the character `last`, the quote at position `n` closes a region: the character
right before it is no backslash. -/
def ClosesAt (quote last : Char) (t : Text) (n : Nat) : Prop :=
  t[n]? = some quote ∧ (last :: t)[n]? ≠ some '\\'

instance (quote last : Char) (t : Text) (n : Nat) : Decidable (ClosesAt quote last t n) :=
  inferInstanceAs (Decidable (_ ∧ _))

/-- A part of an argument list: a character outside all regions, or a region with the quote that
opens it and what stands in it. Only the last region may be left open. -/
inductive Part where
  | outside (c : Char)
  | region (quote : Char) (inner : Text) (closed : Bool)
  deriving DecidableEq

def Part.isRegion : Part → Bool
  | .outside _ => false
  | .region .. => true

/-- The text consists of these parts. -/
inductive Divides : Text → List Part → Prop
  | nil : Divides [] []
  | outside {c : Char} {t : Text} {parts : List Part} (plain : isQuote c = false)
      (tail : Divides t parts) : Divides (c :: t) (.outside c :: parts)
  | closed {q : Char} {t : Text} {n : Nat} {parts : List Part} (quote : isQuote q = true)
      (closes : ClosesAt q q t n) (first : ∀ m < n, ¬ ClosesAt q q t m)
      (tail : Divides (t.drop (n + 1)) parts) :
      Divides (q :: t) (.region q (t.take n) true :: parts)
  | unclosed {q : Char} {t : Text} (quote : isQuote q = true) (never : ∀ n, ¬ ClosesAt q q t n) :
      Divides (q :: t) [.region q t false]

theorem exists_divides (t : Text) : ∃ parts, Divides t parts := by
  induction hn : t.length using Nat.strong_induction_on generalizing t with
  | _ n ih =>
    cases t with
    | nil => exact ⟨[], .nil⟩
    | cons c t =>
      rw [List.length_cons] at hn
      cases hq : isQuote c with
      | false =>
        obtain ⟨parts, hparts⟩ := ih t.length (by omega) t rfl
        exact ⟨_, .outside hq hparts⟩
      | true =>
        by_cases hclosed : ∃ m, ClosesAt c c t m
        · have hlt : (t.drop (Nat.find hclosed + 1)).length < n := by
            rw [List.length_drop]
            omega
          obtain ⟨parts, hparts⟩ := ih _ hlt _ rfl
          exact ⟨_, .closed hq (Nat.find_spec hclosed) (fun m => Nat.find_min hclosed) hparts⟩
        · exact ⟨_, .unclosed hq (not_exists.mp hclosed)⟩

/-- The text ends outside all regions. -/
def EndsOutside (t : Text) : Prop :=
  ∃ parts, Divides t parts ∧ ∀ quote inner, .region quote inner false ∉ parts

theorem Divides.append {s t : Text} {ps qs : List Part} (hs : Divides s ps) (ht : Divides t qs)
    (hclosed : ∀ quote inner, .region quote inner false ∉ ps) : Divides (s ++ t) (ps ++ qs) := by
  induction hs with
  | nil => exact ht
  | outside plain _ ih =>
    exact .outside plain (ih fun q inner h => hclosed q inner (List.mem_cons_of_mem _ h))
  | @closed q s n ps quote closes first _ ih =>
    have htail := ih fun q inner h => hclosed q inner (List.mem_cons_of_mem _ h)
    have hn : n < s.length := (List.getElem?_eq_some_iff.mp closes.1).1
    -- up to the closing quote the longer text is the same
    have hsame : ∀ m ≤ n, ClosesAt q q (s ++ t) m ↔ ClosesAt q q s m := by
      intro m hm
      rw [ClosesAt, ClosesAt, List.getElem?_append_left (by omega), ← List.cons_append,
        List.getElem?_append_left (by rw [List.length_cons]; omega)]
    rw [← List.drop_append_of_le_length hn] at htail
    have h := Divides.closed quote ((hsame n le_rfl).mpr closes)
      (fun m hm hm' => first m hm ((hsame m hm.le).mp hm')) htail
    rwa [List.take_append_of_le_length hn.le] at h
  | unclosed quote never => exact absurd List.mem_cons_self (hclosed _ _)

/-! ## Sorting characters by regions -/

/-- The marks of the characters of a part. -/
def Part.marks : Part → List Mark
  | .outside c => [.outside c]
  | .region _ inner closed => .quote :: (inner.map .inside ++ if closed then [.quote] else [])

theorem closesAt_zero {q last c : Char} {t : Text} :
    ClosesAt q last (c :: t) 0 ↔ c = q ∧ some last ≠ some '\\' := by
  simp only [ClosesAt, List.getElem?_cons_zero, Option.some.injEq]

theorem closesAt_succ {q last c : Char} {t : Text} {n : Nat} :
    ClosesAt q last (c :: t) (n + 1) ↔ ClosesAt q c t n := Iff.rfl

/-- Before the quote that closes a region, the characters are inside it. -/
theorem marksFrom_closed {q last : Char} {t : Text} {n : Nat} (h : ClosesAt q last t n)
    (hfirst : ∀ m < n, ¬ ClosesAt q last t m) :
    marksFrom (some q) (some last) t =
      (t.take n).map .inside ++ .quote :: marksFrom none (some q) (t.drop (n + 1)) := by
  induction t generalizing last n with
  | nil => cases h.1
  | cons c t ih =>
    cases n with
    | zero =>
      obtain ⟨rfl, hlast⟩ := closesAt_zero.mp h
      rw [marksFrom, if_pos ⟨rfl, hlast⟩]
      rfl
    | succ n =>
      have hopen := mt closesAt_zero.mpr (hfirst 0 n.succ_pos)
      have hmore : ∀ m < n, ¬ ClosesAt q c t m :=
        fun m hm => hfirst (m + 1) (Nat.succ_lt_succ hm)
      rw [marksFrom, if_neg hopen, ih (closesAt_succ.mp h) hmore]
      rfl

theorem marksFrom_unclosed {q last : Char} {t : Text} (h : ∀ n, ¬ ClosesAt q last t n) :
    marksFrom (some q) (some last) t = t.map .inside := by
  induction t generalizing last with
  | nil => rfl
  | cons c t ih =>
    have hopen := mt closesAt_zero.mpr (h 0)
    rw [marksFrom, if_neg hopen, ih fun n => h (n + 1), List.map_cons]

theorem Divides.marksFrom_eq {t : Text} {parts : List Part} (h : Divides t parts)
    (last : Option Char) : marksFrom none last t = parts.flatMap Part.marks := by
  induction h generalizing last with
  | nil => rfl
  | @outside c t parts plain _ ih =>
    rw [marksFrom, plain, if_neg Bool.false_ne_true, ih, List.flatMap_cons]
    rfl
  | @closed q t n parts quote closes first _ ih =>
    rw [marksFrom, if_pos quote, marksFrom_closed closes first, ih, List.flatMap_cons, Part.marks,
      if_pos rfl, List.cons_append, List.append_assoc, List.singleton_append]
  | unclosed quote never =>
    rw [marksFrom, if_pos quote, marksFrom_unclosed never]
    simp only [List.flatMap_cons, List.flatMap_nil, Part.marks, Bool.false_eq_true, if_false,
      List.append_nil]

theorem pieces_marks {t : Text} {parts : List Part} (h : Divides t parts) : pieces (marks t) =
      (splitAt (.outside ',') parts).map fun piece => piece.flatMap Part.marks := by
  have hcomma : Part.marks (.outside ',') = [.outside ','] := rfl
  rw [pieces, marks, h.marksFrom_eq, splitAt_flatMap hcomma]
  intro part hpart hmem
  cases part with
  | outside c =>
    obtain rfl := Mark.outside.inj (List.mem_singleton.mp hmem)
    exact hpart rfl
  | region quote inner closed => cases closed <;> simp [Part.marks] at hmem

/-! ## Arguments -/

/-- The characters of a part, without the quotes of a region. -/
def Part.content : Part → List Mark
  | .outside c => [.outside c]
  | .region _ inner _ => inner.map .inside

/-- The argument of a piece: its characters between the longest runs of blank characters outside
regions at both ends. -/
def StandsFor (piece : List Part) (arg : Text) : Prop :=
  ∃ front core back : List Mark, piece.flatMap Part.content = front ++ core ++ back ∧
    (∀ m ∈ front ++ back, m.isPadding = true) ∧
    (∀ m ∈ core.head?, m.isPadding = false) ∧ (∀ m ∈ core.getLast?, m.isPadding = false) ∧
    arg = core.filterMap Mark.char?

/-- Each piece gives its argument, but the last one only if the argument is not empty or a quote was
opened in the piece. -/
inductive Lists : List (List Part) → List Text → Prop
  | kept {last : List Part} {arg : Text} (stands : StandsFor last arg)
      (kept : arg ≠ [] ∨ last.any Part.isRegion = true) : Lists [last] [arg]
  | dropped {last : List Part} (stands : StandsFor last [])
      (plain : last.any Part.isRegion = false) : Lists [last] []
  | cons {piece next : List Part} {more : List (List Part)} {arg : Text} {args : List Text}
      (stands : StandsFor piece arg) (tail : Lists (next :: more) args) :
      Lists (piece :: next :: more) (arg :: args)

theorem Part.filter_marks (part : Part) : part.marks.filter (· ≠ .quote) = part.content := by
  cases part with
  | outside c => rfl
  | region quote inner closed => cases closed <;> simp [marks, content]

theorem argument_marks (piece : List Part) : argument (piece.flatMap Part.marks) =
    (trimBy Mark.isPadding (piece.flatMap Part.content)).filterMap Mark.char? := by
  rw [argument, List.filter_flatMap]
  simp only [Part.filter_marks]

theorem StandsFor.argument_eq {piece : List Part} {arg : Text} (h : StandsFor piece arg) :
    argument (piece.flatMap Part.marks) = arg := by
  obtain ⟨front, core, back, hparts, hpadding, hhead, hlast, rfl⟩ := h
  rw [List.forall_mem_append] at hpadding
  rw [argument_marks, hparts, trimBy_append hpadding.1 hpadding.2, trimBy_eq_self hhead hlast]

theorem standsFor_argument (piece : List Part) :
    StandsFor piece (argument (piece.flatMap Part.marks)) := by
  obtain ⟨front, back, hparts, hfront, hback⟩ :=
    exists_trimBy Mark.isPadding (piece.flatMap Part.content)
  exact ⟨front, _, back, hparts, List.forall_mem_append.mpr ⟨hfront, hback⟩, head?_trimBy _,
    getLast?_trimBy _, argument_marks piece⟩

theorem quote_mem_marks (piece : List Part) :
    Mark.quote ∈ piece.flatMap Part.marks ↔ piece.any Part.isRegion = true := by
  rw [List.mem_flatMap, List.any_eq_true]
  refine exists_congr fun part => and_congr_right fun _ => ?_
  cases part <;> simp [Part.marks, Part.isRegion]

theorem arguments_last (piece : List Part) : arguments [piece.flatMap Part.marks] =
    if argument (piece.flatMap Part.marks) = [] ∧ piece.any Part.isRegion = false then []
    else [argument (piece.flatMap Part.marks)] := by
  simp only [arguments, quote_mem_marks, Bool.not_eq_true]

theorem Lists.arguments_eq {pieces : List (List Part)} {args : List Text} (h : Lists pieces args) :
    arguments (pieces.map fun piece => piece.flatMap Part.marks) = args := by
  induction h with
  | @kept last arg stands kept =>
    rw [List.map_singleton, arguments_last, stands.argument_eq, if_neg]
    rintro ⟨harg, hplain⟩
    rw [hplain] at kept
    exact kept.elim (· harg) Bool.false_ne_true
  | dropped stands plain =>
    rw [List.map_singleton, arguments_last, stands.argument_eq, if_pos ⟨rfl, plain⟩]
  | cons stands _ ih =>
    rw [List.map_cons] at ih ⊢
    rw [List.map_cons, arguments, stands.argument_eq, ih]
    exact List.cons_ne_nil _ _

theorem lists_arguments {pieces : List (List Part)} (h : pieces ≠ []) :
    Lists pieces (arguments (pieces.map fun piece => piece.flatMap Part.marks)) := by
  induction pieces with
  | nil => exact absurd rfl h
  | cons piece more ih =>
    have hstands := standsFor_argument piece
    cases more with
    | nil =>
      rw [List.map_singleton, arguments_last]
      split
      · rename_i hdropped
        rw [hdropped.1] at hstands
        exact .dropped hstands hdropped.2
      · rename_i hkept
        rw [not_and_or, Bool.not_eq_false] at hkept
        exact .kept hstands hkept
    | cons next more => exact .cons hstands (ih (List.cons_ne_nil _ _))

/-! ## Argument lists -/

theorem arguments_append (front : List (List Mark)) {back : List (List Mark)} (h : back ≠ []) :
    arguments (front ++ back) = front.map argument ++ arguments back := by
  induction front with
  | nil => rfl
  | cons piece front ih =>
    rw [List.cons_append, arguments, ih, List.map_cons, List.cons_append]
    exact fun hnil => h (List.append_eq_nil_iff.mp hnil).2

theorem read_append_comma {a : Text} (h : EndsOutside a) (b : Text) :
    read (a ++ ',' :: b) = (pieces (marks a)).map argument ++ read b := by
  obtain ⟨ps, hps, hclosed⟩ := h
  obtain ⟨qs, hqs⟩ := exists_divides b
  have hcomma : Divides (',' :: b) (.outside ',' :: qs) := .outside (by decide) hqs
  have hboth : pieces (marks (a ++ ',' :: b)) = pieces (marks a) ++ pieces (marks b) := by
    rw [pieces_marks (hps.append hcomma hclosed), pieces_marks hps, pieces_marks hqs,
      splitAt_append_sep, List.map_append]
  have hne : pieces (marks b) ≠ [] := splitAt_ne_nil _ _
  rw [read, hboth, arguments_append _ hne, read]

/-- Reading an argument list gives the arguments of its pieces: the text is divided into regions and
the characters outside of them, cut at the commas outside, and each piece stands for an argument,
which is left out only if it is the last one, empty and without a quote. Behind a text that ends
outside all regions, what follows a comma is read on its own. -/
theorem read_eq_iff_lists :
    (∀ t args, read t = args ↔
      ∃ parts, Divides t parts ∧ Lists (splitAt (.outside ',') parts) args) ∧
      ∀ a b, EndsOutside a → read (a ++ ',' :: b) = read (a ++ [',']) ++ read b := by
  constructor
  · intro t args
    constructor
    · rintro rfl
      obtain ⟨parts, hparts⟩ := exists_divides t
      refine ⟨parts, hparts, ?_⟩
      rw [read, pieces_marks hparts]
      exact lists_arguments (splitAt_ne_nil _ _)
    · rintro ⟨parts, hparts, hlists⟩
      rw [read, pieces_marks hparts, hlists.arguments_eq]
  · intro a b h
    have hnil : read [] = [] := rfl
    rw [read_append_comma h, read_append_comma h, hnil, List.append_nil]

/-- Behind two regions, one of which holds a comma and a quote behind a backslash, follow a blank
piece, an empty region, and a region that is left open. -/
theorem read_lists_regions :
    let a := " 'it\\'s, ' \"x\"".toList
    let b := " , '', \"y, z".toList
    EndsOutside a ∧ read (a ++ [',']) = ["it\\'s,  x".toList] ∧ read b = [[], [], "y, z".toList] ∧
      read (a ++ ',' :: b) = ["it\\'s,  x".toList, [], [], "y, z".toList] := by
  intro a b
  have ha : EndsOutside a := by
    refine ⟨[.outside ' ', .region '\'' "it\\'s, ".toList true, .outside ' ',
      .region '"' ['x'] true], .outside (by decide) ?_, by simp⟩
    refine @Divides.closed _ _ 7 _ (by decide) (by decide) (by decide) (.outside (by decide) ?_)
    exact @Divides.closed _ _ 1 _ (by decide) (by decide) (by decide) .nil
  have hfront : read (a ++ [',']) = ["it\\'s,  x".toList] := by decide
  have hback : read b = [[], [], "y, z".toList] := by decide
  obtain ⟨-, hsplit⟩ := read_eq_iff_lists
  refine ⟨ha, hfront, hback, ?_⟩
  rw [hsplit a b ha, hfront, hback]
  rfl

end Stencil.Arguments
