import Stencil.Proofs.Json.Assignment
import Stencil.Proofs.Jinja.Numbers
import Stencil.Proofs.Jinja.Pages

/-!
# What converted placeholders are read as

The expression of a placeholder, as Jinja reads it. An argument of digits, points and minus signs
that is a numeral is written without quotes, and Jinja does not read all numerals: it wants a digit
in front of the point and bounds the whole numbers. So a call has lexemes in any case, and they are
either read as a filter or end the reading.

* `lexesArgument_argument`, `lexes_placeholder`: the lexemes of arguments and of whole placeholders.
* `Expression.filters_calls`: the calls of a chain, up to the first one that is not readable.
* `read_converted`: a converted placeholder is read back, or which calls prevent it, and which
  numbers keep their value.
-/

namespace Stencil.Jinja

open Decimal (Numeral valueOf)
open Json (segments)

/-! ## Arguments -/

/-- The numeral of an argument that is written as a number. -/
def numeral? (arg : Text) : Option Numeral :=
  if arg.all isNumberPart then Numeral.ofText? arg else none

/-- The lexemes of an argument. -/
def lexemesOf (arg : Text) : List Lexeme :=
  match numeral? arg with
  | some n => numberLexemes n
  | none => [.string arg]

/-- What an argument is read as: the number that it spells, or else its text. -/
def Expression.ofArgument (arg : Text) : Expression :=
  match numeral? arg with
  | some n => .ofNumeral n
  | none => .literal (.string arg)

theorem argument_eq (arg : Text) :
    argument arg = if (numeral? arg).isSome then arg else Json.literal arg := by
  rw [argument, numeral?]
  cases arg.all isNumberPart <;> rfl

theorem isPlain_of_numeral? {arg : Text} {n : Numeral} (h : numeral? arg = some n) :
    n.IsPlain ∧ arg = n.text := by
  rw [numeral?, Option.ite_none_right_eq_some] at h
  exact Numeral.eq_text_of_ofText? (List.all_eq_true.mp h.1) h.2

theorem lexesArgument_argument (arg : Text) : LexesArgument (argument arg) (lexemesOf arg) := by
  cases h : numeral? arg with
  | none =>
    rw [argument_eq, lexemesOf, h]
    exact (lexes_literal arg).argument
  | some n =>
    obtain ⟨hplain, htext⟩ := isPlain_of_numeral? h
    rw [argument_eq, lexemesOf, h, Option.isSome_some, if_pos rfl, htext]
    exact lexesArgument_number hplain

/-- Can Jinja read an argument? Always, unless it is written as a number. -/
def IsReadableArgument (arg : Text) : Prop := ∀ n ∈ numeral? arg, IsReadable n

instance (arg : Text) : Decidable (IsReadableArgument arg) :=
  inferInstanceAs (Decidable (∀ n ∈ numeral? arg, IsReadable n))

namespace Expression

theorem reads_argument {arg : Text} (h : IsReadableArgument arg) :
    Reads (lexemesOf arg) (ofArgument arg) := by
  cases hn : numeral? arg with
  | none =>
    rw [lexemesOf, ofArgument, hn]
    exact reads_string arg
  | some n =>
    rw [lexemesOf, ofArgument, hn]
    exact reads_number (isPlain_of_numeral? hn).1 (h n hn)

theorem fails_argument {arg : Text} (h : ¬ IsReadableArgument arg) : Fails (lexemesOf arg) := by
  rw [IsReadableArgument, not_forall] at h
  obtain ⟨n, h⟩ := h
  rw [Classical.not_imp] at h
  obtain ⟨hn, hnot⟩ := h
  rw [Option.mem_def] at hn
  rw [lexemesOf, hn]
  exact fails_number (isPlain_of_numeral? hn).1 hnot

end Expression

/-! ## Calls -/

/-- The filter of a call, as it is written. -/
def callFilter (call : Call) : Text := filter call.name (call.args.map argument)

/-- The lexemes of a call. -/
def callLexemes (call : Call) : List Lexeme :=
  filterLexemes call.name (call.args.map lexemesOf)

/-- Can Jinja read the filter of a call? Not if there are too many arguments. -/
structure IsReadableCall (call : Call) : Prop where
  few : call.args.length ≤ greatestArity
  args : ∀ arg ∈ call.args, IsReadableArgument arg

instance (call : Call) : Decidable (IsReadableCall call) :=
  decidable_of_iff (call.args.length ≤ greatestArity ∧ ∀ arg ∈ call.args, IsReadableArgument arg)
    ⟨fun h => ⟨h.1, h.2⟩, fun h => ⟨h.few, h.args⟩⟩

/-- A call as a filter around an expression. -/
def Expression.apply (e : Expression) (call : Call) : Expression :=
  .filter call.name e (call.args.map Expression.ofArgument)

/-- What an expression with calls behind it is read as. -/
def Expression.afterCalls (e : Expression) (calls : List Call) : Except Fault Expression :=
  if ∀ call ∈ calls, IsReadableCall call then .ok (calls.foldl Expression.apply e)
  else .error .syntaxError

theorem lexes_call {call : Call} (h : isIdentifier call.name = true) :
    Lexes (callFilter call) (callLexemes call) := by
  apply lexes_filter h
  rw [List.forall₂_map_left_iff, List.forall₂_map_right_iff, List.forall₂_same]
  exact fun arg _ => lexesArgument_argument arg

namespace Expression

theorem barOrEnd_calls (calls : List Call) : BarOrEnd (calls.flatMap callLexemes) := by
  cases calls <;> trivial

theorem length_callLexemes (call : Call) : call.args.length + 1 ≤ (callLexemes call).length := by
  have h := length_filterLexemes call.name (call.args.map lexemesOf)
  rwa [List.length_map] at h

theorem reads_arguments {args : List Text} (h : ∀ arg ∈ args, IsReadableArgument arg) :
    List.Forall₂ Reads (args.map lexemesOf) (args.map ofArgument) := by
  rw [List.forall₂_map_left_iff, List.forall₂_map_right_iff, List.forall₂_same]
  exact fun arg harg => reads_argument (h arg harg)

section

variable {call : Call} {n : Nat}

theorem filters_call (h : IsReadableCall call) (hn : call.args.length + 9 ≤ n)
    {rest : List Lexeme} (hrest : BarOrEnd rest) (e : Expression) :
    filters (n + 1) e (callLexemes call ++ rest) = filters n (e.apply call) rest := by
  apply filters_filter (reads_arguments h.args) _ _ hrest
  · rw [List.length_map]
    exact h.few
  · rwa [List.length_map]

theorem filters_call_of_not_readable (h : ¬ IsReadableCall call)
    (hn : call.args.length + 9 ≤ n) (e : Expression) (rest : List Lexeme) :
    filters (n + 1) e (callLexemes call ++ rest) = .error .syntaxError := by
  have hlength : (call.args.map lexemesOf).length + 9 ≤ n := by rwa [List.length_map]
  by_cases hargs : ∀ arg ∈ call.args, IsReadableArgument arg
  · have hmany : greatestArity < (call.args.map lexemesOf).length := by
      rw [List.length_map]
      by_contra hfew
      exact h ⟨Nat.le_of_not_lt hfew, hargs⟩
    exact filters_of_many (reads_arguments hargs) hmany hlength _ e rest
  · have heach : ∀ ls ∈ call.args.map lexemesOf, Fails ls ∨ ∃ e, Reads ls e := by
      intro ls hls
      obtain ⟨arg, -, rfl⟩ := List.mem_map.mp hls
      by_cases harg : IsReadableArgument arg
      · exact Or.inr ⟨_, reads_argument harg⟩
      · exact Or.inl (fails_argument harg)
    have hfails : ∃ ls ∈ call.args.map lexemesOf, Fails ls := by
      push Not at hargs
      obtain ⟨arg, harg, hnot⟩ := hargs
      exact ⟨_, List.mem_map_of_mem harg, fails_argument hnot⟩
    exact filters_of_fails heach hfails hlength _ e rest

theorem afterCalls_of_readable (h : IsReadableCall call) (calls : List Call) (e : Expression) :
    e.afterCalls (call :: calls) = (e.apply call).afterCalls calls := by
  simp only [afterCalls, List.forall_mem_cons, h, true_and, List.foldl_cons]

theorem afterCalls_of_not_readable (h : ¬ IsReadableCall call) (calls : List Call)
    (e : Expression) : e.afterCalls (call :: calls) = .error .syntaxError := by
  rw [afterCalls, if_neg]
  exact fun hall => h (hall call List.mem_cons_self)

end

/-- The filters of calls are read one after the other, up to the first one that is not readable. -/
theorem filters_calls (calls : List Call) {n : Nat}
    (hn : (calls.flatMap callLexemes).length + 10 ≤ n) (e : Expression) :
    filters n e (calls.flatMap callLexemes) = (e.afterCalls calls).map fun e => (e, []) := by
  induction calls generalizing n e with
  | nil =>
    have hends : Ends [] := trivial
    have hnone : e.afterCalls [] = .ok e := if_pos fun call hcall => by cases hcall
    rw [hnone]
    exact filters_of_ends hends (by omega) e
  | cons call calls ih =>
    have hlength := length_callLexemes call
    rw [List.flatMap_cons, List.length_append] at hn
    obtain ⟨n, rfl⟩ := Nat.exists_eq_add_of_le' (Nat.le_trans (by omega) hn : 1 ≤ n)
    rw [List.flatMap_cons]
    by_cases hcall : IsReadableCall call
    · rw [filters_call hcall (by omega) (barOrEnd_calls calls), afterCalls_of_readable hcall]
      exact ih (by omega) (e.apply call)
    · rw [filters_call_of_not_readable hcall (by omega), afterCalls_of_not_readable hcall]
      rfl

end Expression

/-! ## Placeholders -/

/-- The filter of a fallback text, as it is written. -/
def fallbackFilter (p : Placeholder) : Text :=
  match p.fallback with
  | some text => filter "default".toList [Json.literal text]
  | none => []

/-- The lexemes of a fallback text. -/
def fallbackLexemes (p : Placeholder) : List Lexeme :=
  match p.fallback with
  | some text => filterLexemes "default".toList [[.string text]]
  | none => []

/-- What the path of a placeholder is read as: items behind a name. -/
def Expression.ofSegments : List Text → Expression
  | [] => .name []
  | first :: more => ofPath (.name first) more

/-- What a placeholder without its calls is read as: its path, and a filter for its fallback text if
it has one. -/
def Expression.selected (p : Placeholder) : Expression :=
  match p.fallback with
  | some text => .filter "default".toList (ofSegments (segments p.path)) [.literal (.string text)]
  | none => ofSegments (segments p.path)

/-- What a placeholder is read as. -/
def Expression.ofPlaceholder (p : Placeholder) : Expression := p.calls.foldl apply (selected p)

section

variable {p : Placeholder}

theorem stops_filter (name : Text) (args : List Text) : Stops (filter name args) :=
  stops_cons (by decide) _

theorem lexes_fallback (p : Placeholder) : Lexes (fallbackFilter p) (fallbackLexemes p) := by
  unfold fallbackFilter fallbackLexemes
  cases p.fallback with
  | none => exact lexes_nil
  | some text => exact lexes_filter (by decide) (.cons (lexes_literal text).argument .nil)

theorem stops_fallback (p : Placeholder) : Stops (fallbackFilter p) := by
  unfold fallbackFilter
  cases p.fallback with
  | none =>
    intro c hc
    cases hc
  | some text => exact stops_filter _ _

/-- What stands between the braces. -/
def placeholderText (p : Placeholder) : Text :=
  p.path ++ (fallbackFilter p ++ p.calls.flatMap callFilter)

/-- The lexemes of a placeholder. -/
def placeholderLexemes (p : Placeholder) : List Lexeme :=
  pathLexemes (segments p.path) ++ (fallbackLexemes p ++ p.calls.flatMap callLexemes)

theorem lexes_path_segments (h : ∀ name ∈ segments p.path, isIdentifier name = true) :
    Lexes p.path (pathLexemes (segments p.path)) := by
  obtain ⟨first, more, hsegments⟩ := List.exists_cons_of_ne_nil (Json.segments_ne_nil p.path)
  have hjoin : Text.join ['.'] (segments p.path) = p.path := Text.join_splitAt '.' p.path
  rw [hsegments] at h hjoin ⊢
  rw [← hjoin]
  exact lexes_path h

theorem lexes_placeholder (hpath : ∀ name ∈ segments p.path, isIdentifier name = true)
    (hcalls : ∀ call ∈ p.calls, isIdentifier call.name = true) :
    Lexes (placeholderText p) (placeholderLexemes p) := by
  have hstops : Stops (p.calls.flatMap callFilter) := stops_flatMap fun call _ => stops_filter _ _
  have hfilters : Lexes (p.calls.flatMap callFilter) (p.calls.flatMap callLexemes) :=
    lexes_flatMap (fun call hcall => lexes_call (hcalls call hcall)) fun call _ => stops_filter _ _
  exact (lexes_path_segments hpath).append ((lexes_fallback p).append hfilters hstops)
    ((stops_fallback p).append hstops)

namespace Expression

theorem filters_placeholder (p : Placeholder) {n : Nat}
    (hn : (fallbackLexemes p ++ p.calls.flatMap callLexemes).length + 10 ≤ n) :
    filters n (ofSegments (segments p.path)) (fallbackLexemes p ++ p.calls.flatMap callLexemes) =
      ((selected p).afterCalls p.calls).map fun e => (e, []) := by
  rw [List.length_append] at hn
  cases hf : p.fallback with
  | none =>
    have hnil : fallbackLexemes p = [] := by rw [fallbackLexemes, hf]
    rw [hnil, List.nil_append, selected, hf]
    exact filters_calls p.calls (by omega) _
  | some text =>
    have hlexemes : fallbackLexemes p = filterLexemes "default".toList [[.string text]] := by
      rw [fallbackLexemes, hf]
    have hlength := length_filterLexemes "default".toList [[.string text]]
    rw [hlexemes] at hn
    rw [List.length_singleton] at hlength
    obtain ⟨n, rfl⟩ := Nat.exists_eq_add_of_le' (Nat.le_trans (by omega) hn : 1 ≤ n)
    have hreads : List.Forall₂ Reads [[.string text]] [.literal (.string text)] :=
      .cons (reads_string text) .nil
    have hfew : [[Lexeme.string text]].length ≤ greatestArity := by
      rw [List.length_singleton]
      decide
    have hfuel : [[Lexeme.string text]].length + 9 ≤ n := by
      rw [List.length_singleton]
      omega
    rw [hlexemes, filters_filter hreads hfew hfuel (barOrEnd_calls p.calls), selected, hf]
    exact filters_calls p.calls (by omega) _

theorem barOrEnd_placeholder (p : Placeholder) :
    BarOrEnd (fallbackLexemes p ++ p.calls.flatMap callLexemes) := by
  unfold fallbackLexemes
  cases p.fallback with
  | none => exact barOrEnd_calls p.calls
  | some text => trivial

theorem ofLexemes_placeholder (hfirst : ∀ name ∈ (segments p.path).head?, name ∉ reservedWords) :
    ofLexemes (placeholderLexemes p) = (selected p).afterCalls p.calls := by
  obtain ⟨first, more, hsegments⟩ := List.exists_cons_of_ne_nil (Json.segments_ne_nil p.path)
  have hword : first ∉ reservedWords := hfirst first (by rw [hsegments]; rfl)
  have hpath : ofSegments (segments p.path) = ofPath (.name first) more := by
    rw [hsegments, ofSegments]
  rw [placeholderLexemes, hsegments]
  apply ofLexemes_path hword more (barOrEnd_placeholder p)
  intro n hn
  rw [← hpath]
  exact filters_placeholder p hn

end Expression

/-- What stands behind the opening braces of an expression. -/
def insideText (p : Placeholder) : Text := ' ' :: placeholderText p ++ " \x7d\x7d".toList

theorem expression_eq (p : Placeholder) : expression p = '\x7b' :: '\x7b' :: insideText p := by
  rw [expression, insideText, placeholderText, fallbackFilter]
  simp only [List.append_assoc, List.cons_append]
  rfl

theorem body_insideText (hpath : ∀ name ∈ segments p.path, isIdentifier name = true)
    (hcalls : ∀ call ∈ p.calls, isIdentifier call.name = true) :
    body 0 (insideText p) = (placeholderLexemes p, some (none, [])) := by
  have hbody := body_of_lexes (lexes_placeholder hpath hcalls) []
  rwa [List.append_nil] at hbody

/-- A converted placeholder on its own is a page of one expression, if it can be read at all. -/
theorem read_expression (hpath : ∀ name ∈ segments p.path, isIdentifier name = true)
    (hcalls : ∀ call ∈ p.calls, isIdentifier call.name = true) :
    read (expression p) = (Expression.ofLexemes (placeholderLexemes p)).map fun e =>
      [.text [], .value e, .text []] := by
  have hlast := getLast?_expression p
  have hparts := @parts_body [] _ _ _ inert_brace rfl (body_insideText hpath hcalls)
  rw [List.nil_append, ← expression_eq] at hparts
  rw [read, dropLineBreak_eq_self (by rw [hlast]; decide) (by rw [hlast]; decide), hparts,
    parts_of_inert (inert_of_notMem List.not_mem_nil)]
  rfl

/-- What a converted placeholder is read as, when its names are names in Jinja too. Its path comes
first, then a filter for its fallback text if it has one, then one filter for each call, with the
same arguments: numbers as numbers, all else as strings. The only calls that cannot be read have too
many arguments, a number that starts with a point, or a whole number that is too large.

A number that is read has the value that it spells, with one exception: a whole number below zero
whose magnitude needs all the bits, 2 ^ 127 or more. It is read as a minus sign in front of that
magnitude, which keeps no sign if it is 2 ^ 127, and is an invalid operation if it is greater. -/
theorem read_converted (hpath : ∀ name ∈ segments p.path, isIdentifier name = true)
    (hfirst : ∀ name ∈ (segments p.path).head?, name ∉ Expression.reservedWords)
    (hcalls : ∀ call ∈ p.calls, isIdentifier call.name = true) :
    ((∀ call ∈ p.calls, IsReadableCall call) →
        read (expression p) = .ok [.text [], .value (.ofPlaceholder p), .text []]) ∧
      ((∃ call ∈ p.calls, ¬ IsReadableCall call) → read (expression p) = .error .syntaxError) ∧
      ∀ arg,
        (numeral? arg = none →
          argument arg = Json.literal arg ∧ Expression.ofArgument arg = .literal (.string arg)) ∧
        ∀ n, numeral? arg = some n →
          argument arg = arg ∧ arg = n.text ∧ Expression.ofArgument arg = .ofNumeral n ∧
            ∀ context, (Expression.ofNumeral n).value context = .ok (spelled n) ↔
              (n.negative = true → n.fraction = none →
                valueOf n.whole < Decimal.twoTo (Value.wholeBits - 1)) := by
  have hread := read_expression hpath hcalls
  rw [Expression.ofLexemes_placeholder hfirst, Expression.afterCalls] at hread
  refine ⟨?_, ?_, ?_⟩
  · intro h
    rw [hread, if_pos h]
    rfl
  · rintro ⟨call, hcall, hnot⟩
    rw [hread, if_neg fun h => hnot (h call hcall)]
    rfl
  · intro arg
    constructor
    · intro hn
      rw [argument_eq, Expression.ofArgument, hn]
      exact ⟨rfl, rfl⟩
    · intro n hn
      rw [argument_eq, Expression.ofArgument, hn]
      refine ⟨rfl, (isPlain_of_numeral? hn).2, rfl, ?_⟩
      exact fun context => Expression.value_ofNumeral_iff context

end

/-- A path with a scope, a fallback text, and three arguments, two of which are numbers. -/
theorem read_converted_friend :
    let p : Placeholder := ⟨some "user".toList, "name".toList,
      [⟨"pad".toList, ["-2.50".toList, "7".toList, "7-1".toList]⟩], some "Friend".toList⟩
    ((∀ name ∈ segments p.path, isIdentifier name = true) ∧
      (∀ name ∈ (segments p.path).head?, name ∉ Expression.reservedWords) ∧
      ∀ call ∈ p.calls, isIdentifier call.name = true) ∧
      (∀ call ∈ p.calls, IsReadableCall call) ∧
      expression p =
        "\x7b\x7b user.name | default(\"Friend\") | pad(-2.50, 7, \"7-1\") \x7d\x7d".toList ∧
      read (expression p) = .ok [.text [], .value (.ofPlaceholder p), .text []] := by
  intro p
  have hpath : ∀ name ∈ segments p.path, isIdentifier name = true := by decide
  have hfirst : ∀ name ∈ (segments p.path).head?, name ∉ Expression.reservedWords := by decide
  have hcalls : ∀ call ∈ p.calls, isIdentifier call.name = true := by decide
  have hreadable : ∀ call ∈ p.calls, IsReadableCall call := by decide +kernel
  exact ⟨⟨hpath, hfirst, hcalls⟩, hreadable, by decide +kernel,
    (read_converted hpath hfirst hcalls).1 hreadable⟩

/-- A number that starts with a point is written as it is, and Jinja cannot read it. -/
theorem converted_leading_point :
    let p : Placeholder := ⟨none, ['a'], [⟨"default".toList, [".5".toList]⟩], none⟩
    (Template.parse {} "<<@a->default(.5)@>>".toList).tokens.map Token.toPlaceholder = [p] ∧
      (∀ name ∈ segments p.path, isIdentifier name = true) ∧
      (∀ name ∈ (segments p.path).head?, name ∉ Expression.reservedWords) ∧
      (∀ call ∈ p.calls, isIdentifier call.name = true) ∧
      (Numeral.ofText? ".5".toList).isSome ∧
      expression p = "\x7b\x7b a | default(.5) \x7d\x7d".toList ∧
      ¬ ∃ parts, read (expression p) = .ok parts := by
  intro p
  have hpath : ∀ name ∈ segments p.path, isIdentifier name = true := by decide
  have hfirst : ∀ name ∈ (segments p.path).head?, name ∉ Expression.reservedWords := by decide
  have hcalls : ∀ call ∈ p.calls, isIdentifier call.name = true := by decide
  have hnot : ¬ ∀ call ∈ p.calls, IsReadableCall call := by decide +kernel
  refine ⟨by decide +kernel, hpath, hfirst, hcalls, by decide, by decide, ?_⟩
  rw [read_expression hpath hcalls, Expression.ofLexemes_placeholder hfirst,
    Expression.afterCalls, if_neg hnot]
  rintro ⟨parts, hparts⟩
  cases hparts

end Stencil.Jinja
