import Stencil.Jinja.Conversion
import Stencil.Jinja.Rendering
import Stencil.Proofs.Text.Occurrence
import Mathlib.Data.List.Infix

/-!
# Pages of converted templates

How a page is read that alternates between text without opening braces and expressions, and what it
shows. `Inert t` says that there are no opening braces in `t`, and `Shows context page t` that the
page is read and that `t` is shown.

* `cutOpener?_append`, `cutOpener?_eq_none_iff`: which opening braces are found.
* `inert_of_parts`, `parts_eq_text_iff`: text that is read back as it is has no opening braces.
* `shows_text`: text shows itself.
* `Shows.expression`: an expression shows its value between what stands around it.
* `dropLineBreak_eq_self`: a page that does not end in a line break is read as it is.
-/

namespace Stencil.Jinja

/-! ## Opening braces -/

/-- The character that makes a brace an opening one, behind it. -/
def Opener.second : Opener → Char
  | .expression => '\x7b'
  | .statement => '%'
  | .comment => '#'

/-- How opening braces are written. -/
def Opener.mark (opener : Opener) : Text := ['\x7b', opener.second]

/-- No opening braces stand in the text. -/
def Inert (t : Text) : Prop := ∀ opener : Opener, ¬ opener.mark <:+: t

theorem Inert.of_infix {s t : Text} (h : Inert t) (hs : s <:+: t) : Inert s :=
  fun opener hm => h opener (hm.trans hs)

theorem inert_of_notMem {t : Text} (h : '\x7b' ∉ t) : Inert t :=
  fun _ hm => h (hm.subset List.mem_cons_self)

theorem inert_cons {c : Char} {t : Text} (hc : ∀ opener : Opener, ¬ opener.mark <+: c :: t)
    (h : Inert t) : Inert (c :: t) := by
  intro opener hm
  rcases List.infix_cons_iff.mp hm with hm | hm
  · exact hc opener hm
  · exact h opener hm

theorem inert_brace : Inert ['\x7b'] := by
  intro opener hm
  exact absurd hm.length_le (by simp [Opener.mark])

/-- A brace at the end opens nothing, unless it is the second one. -/
theorem inert_concat_iff {t : Text} :
    Inert (t ++ ['\x7b']) ↔ Inert t ∧ t.getLast? ≠ some '\x7b' := by
  constructor
  · intro h
    refine ⟨h.of_infix (List.prefix_append _ _).isInfix, ?_⟩
    intro hlast
    obtain ⟨s, rfl⟩ := List.getLast?_eq_some_iff.mp hlast
    exact h .expression ⟨s, [], by simp [Opener.mark, Opener.second]⟩
  · rintro ⟨h, hlast⟩ opener ⟨a, b, hparts⟩
    rcases List.eq_nil_or_concat b with rfl | ⟨b, c, rfl⟩
    · have hmark : a ++ opener.mark ++ [] = a ++ ['\x7b'] ++ [opener.second] := by
        simp [Opener.mark]
      rw [hmark] at hparts
      obtain ⟨rfl, -⟩ := List.append_inj' hparts rfl
      exact hlast List.getLast?_concat
    · rw [List.concat_eq_append, ← List.append_assoc] at hparts
      exact h opener ⟨a, b, (List.append_inj' hparts rfl).1⟩

theorem inert_concat_of_notMem {t : Text} (h : '\x7b' ∉ t) : Inert (t ++ ['\x7b']) :=
  inert_concat_iff.mpr ⟨inert_of_notMem h, fun hlast => h (List.mem_of_getLast? hlast)⟩

/-! ## Cutting at opening braces -/

theorem cutOpener?_mark (opener : Opener) (t : Text) :
    cutOpener? (opener.mark ++ t) = some ([], opener, t) := by
  cases opener <;> rfl

theorem cutOpener?_cons {c : Char} {t : Text} (hc : ∀ opener : Opener, ¬ opener.mark <+: c :: t) :
    cutOpener? (c :: t) =
      (cutOpener? t).map fun (before, opener, rest) => (c :: before, opener, rest) := by
  rw [cutOpener?]
  · rintro t rfl rfl
    exact hc .expression ⟨t, rfl⟩
  · rintro t rfl rfl
    exact hc .statement ⟨t, rfl⟩
  · rintro t rfl rfl
    exact hc .comment ⟨t, rfl⟩

/-- The first opening braces are found: none stand before them, even with their first brace. -/
theorem eq_of_cutOpener? {t before rest : Text} {opener : Opener}
    (h : cutOpener? t = some (before, opener, rest)) :
    t = before ++ opener.mark ++ rest ∧ Inert (before ++ ['\x7b']) := by
  induction t generalizing before with
  | nil => cases h
  | cons c t ih =>
    by_cases hm : ∃ opener : Opener, opener.mark <+: c :: t
    · obtain ⟨found, after, ht⟩ := hm
      rw [← ht, cutOpener?_mark] at h
      cases h
      exact ⟨ht.symm, inert_brace⟩
    · rw [not_exists] at hm
      rw [cutOpener?_cons hm] at h
      obtain ⟨⟨front, _, _⟩, hc, hr⟩ := Option.map_eq_some_iff.mp h
      cases hr
      obtain ⟨ht, hinert⟩ := ih hc
      have hfront : c :: (front ++ ['\x7b']) <+: c :: t := by
        rw [ht]
        exact ⟨opener.second :: rest, by simp [Opener.mark]⟩
      exact ⟨congrArg (c :: ·) ht, inert_cons (fun other hc => hm other (hc.trans hfront)) hinert⟩

theorem cutOpener?_eq_none_iff {t : Text} : cutOpener? t = none ↔ Inert t := by
  constructor
  · intro h
    induction t with
    | nil => exact inert_of_notMem List.not_mem_nil
    | cons c t ih =>
      have hm : ∀ opener : Opener, ¬ opener.mark <+: c :: t := by
        rintro opener ⟨after, ht⟩
        rw [← ht, cutOpener?_mark] at h
        cases h
      rw [cutOpener?_cons hm] at h
      exact inert_cons hm (ih (Option.map_eq_none_iff.mp h))
  · intro h
    cases hc : cutOpener? t with
    | none => rfl
    | some found =>
      obtain ⟨ht, -⟩ := eq_of_cutOpener? hc
      exact absurd ⟨_, _, ht.symm⟩ (h found.2.1)

instance (t : Text) : Decidable (Inert t) :=
  decidable_of_iff (cutOpener? t = none) cutOpener?_eq_none_iff

/-- Opening braces are not behind other ones, if none stand before them. -/
theorem length_le_of_mark {gap before s t : Text} {opener opener' : Opener}
    (h : gap ++ opener.mark ++ s = before ++ opener'.mark ++ t)
    (hinert : Inert (before ++ ['\x7b'])) : before.length ≤ gap.length := by
  by_contra hlt
  have hshort : gap ++ opener.mark <+: before ++ opener'.mark ++ t := ⟨s, h⟩
  have hlong : before ++ ['\x7b'] <+: before ++ opener'.mark ++ t :=
    ⟨opener'.second :: t, by simp [Opener.mark]⟩
  have hshorter := List.prefix_of_prefix_length_le hshort hlong (by
    simp only [Opener.mark, List.length_append, List.length_cons, List.length_nil]
    omega)
  exact hinert opener ((List.suffix_append gap opener.mark).isInfix.trans hshorter.isInfix)

/-- Opening braces are the first ones behind a text that has none, even with their first brace. -/
theorem cutOpener?_append {gap : Text} (h : Inert (gap ++ ['\x7b'])) (opener : Opener) (t : Text) :
    cutOpener? (gap ++ opener.mark ++ t) = some (gap, opener, t) := by
  cases hc : cutOpener? (gap ++ opener.mark ++ t) with
  | none => exact absurd ⟨gap, t, rfl⟩ (cutOpener?_eq_none_iff.mp hc opener)
  | some found =>
    obtain ⟨before, found, rest⟩ := found
    obtain ⟨hparts, hinert⟩ := eq_of_cutOpener? hc
    have hlen : gap.length = before.length :=
      Nat.le_antisymm (length_le_of_mark hparts.symm h) (length_le_of_mark hparts hinert)
    rw [List.append_assoc, List.append_assoc] at hparts
    obtain ⟨rfl, hrest⟩ := List.append_inj hparts hlen
    obtain ⟨hmark, rfl⟩ := List.append_inj hrest rfl
    have hopener : opener = found := by
      cases opener <;> cases found <;> first | rfl | exact absurd hmark (by decide)
    rw [hopener]

/-! ## Parts -/

theorem parts_of_inert {t : Text} (h : Inert t) : parts none t = .ok [.text t] := by
  rw [parts]
  split
  · rfl
  · rename_i hc
    rw [cutOpener?_eq_none_iff.mpr h] at hc
    cases hc

theorem parts_body {gap rest after : Text} {ls : List Lexeme} (hgap : Inert (gap ++ ['\x7b']))
    (hsign : takeSign rest = (none, rest)) (hbody : body 0 rest = (ls, some (none, after))) :
    parts none (gap ++ '\x7b' :: '\x7b' :: rest) = (Expression.ofLexemes ls).bind fun e =>
      (parts none after).map fun more => .text gap :: .value e :: more := by
  have hcut : cutOpener? (gap ++ '\x7b' :: '\x7b' :: rest) = some (gap, .expression, rest) := by
    have happend := cutOpener?_append hgap .expression rest
    rwa [List.append_assoc] at happend
  rw [parts]
  split
  · rename_i hc
    rw [hcut] at hc
    cases hc
  · rename_i hc
    rw [hcut] at hc
    cases hc
    simp only [hsign]
    split
    · rename_i hb
      rw [hsign, hbody] at hb
      cases hb
    · rename_i hb
      rw [hsign, hbody] at hb
      cases hb
      rfl

theorem parts_expression {gap rest after : Text} {ls : List Lexeme} {e : Expression}
    (hgap : Inert (gap ++ ['\x7b'])) (hsign : takeSign rest = (none, rest))
    (hbody : body 0 rest = (ls, some (none, after))) (he : Expression.ofLexemes ls = .ok e) :
    parts none (gap ++ '\x7b' :: '\x7b' :: rest) =
      (parts none after).map fun more => .text gap :: .value e :: more := by
  rw [parts_body hgap hsign hbody, he]
  rfl

/-! ## Gaps that are read back -/

theorem exists_of_map_eq_ok {α β : Type} {f : α → β} {x : Except Fault α} {b : β}
    (h : x.map f = .ok b) : ∃ a, x = .ok a ∧ f a = b := by
  cases x with
  | error fault => cases h
  | ok a => exact ⟨a, rfl, Except.ok.inj h⟩

theorem exists_of_bind_eq_ok {α β : Type} {f : α → Except Fault β} {x : Except Fault α} {b : β}
    (h : x.bind f = .ok b) : ∃ a, x = .ok a ∧ f a = .ok b := by
  cases x with
  | error fault => cases h
  | ok a => exact ⟨a, rfl, h⟩

theorem length_trimmed_le (front tail : Bool) (t : Text) :
    (trimmed front tail t).length ≤ t.length := by
  have hstart : ∀ t : Text, (Text.trimStart t).length ≤ t.length := fun t =>
    (List.dropWhile_suffix _).length_le
  have hend : ∀ t : Text, (trimEnd t).length ≤ t.length := by
    intro t
    have hreverse := hstart t.reverse
    rw [List.length_reverse] at hreverse
    rwa [trimEnd, List.length_reverse]
  cases front <;> cases tail
  · exact Nat.le_refl _
  · exact hend t
  · exact hstart t
  · exact Nat.le_trans (hend _) (hstart t)

/-- A page with opening braces begins with a text that is no longer than what stands before them. -/
theorem exists_text_of_parts {sign : Option Sign} {t before rest : Text} {opener : Opener}
    {ps : List Part} (h : parts sign t = .ok ps)
    (hc : cutOpener? t = some (before, opener, rest)) :
    ∃ shown more, ps = .text shown :: more ∧ shown.length ≤ before.length := by
  have hshown := length_trimmed_le (sign = some .minus) ((takeSign rest).1 = some .minus) before
  rw [parts] at h
  split at h
  · rename_i hnone
    rw [hc] at hnone
    cases hnone
  · rename_i hsome
    rw [hc] at hsome
    cases hsome
    cases opener with
    | statement => cases h
    | comment =>
      simp only at h
      split at h
      · cases h
      · obtain ⟨more, -, rfl⟩ := exists_of_map_eq_ok h
        exact ⟨_, more, rfl, hshown⟩
    | expression =>
      simp only at h
      split at h
      · obtain ⟨e, -, he⟩ := exists_of_bind_eq_ok h
        cases he
      · obtain ⟨e, -, he⟩ := exists_of_bind_eq_ok h
        obtain ⟨more, -, rfl⟩ := exists_of_map_eq_ok he
        exact ⟨_, _, rfl, hshown⟩

theorem length_le_of_parts {sign : Option Sign} {t gap before rest : Text} {opener : Opener}
    {more : List Part} (h : parts sign t = .ok (.text gap :: more))
    (hc : cutOpener? t = some (before, opener, rest)) : gap.length ≤ before.length := by
  obtain ⟨shown, _, hps, hlen⟩ := exists_text_of_parts h hc
  obtain ⟨hshown, -⟩ := List.cons.inj hps
  rwa [Part.text.inj hshown]

/-- A gap that is read back as it is has no opening braces, even with those of the expression behind
it. -/
theorem inert_of_parts {gap rest : Text} {more : List Part}
    (h : parts none (gap ++ '\x7b' :: '\x7b' :: rest) = .ok (.text gap :: more)) :
    Inert (gap ++ ['\x7b']) := by
  have hmark : gap ++ '\x7b' :: '\x7b' :: rest = gap ++ Opener.expression.mark ++ rest := by
    rw [List.append_assoc]
    rfl
  rw [hmark] at h
  cases hc : cutOpener? (gap ++ Opener.expression.mark ++ rest) with
  | none => exact absurd ⟨gap, rest, rfl⟩ (cutOpener?_eq_none_iff.mp hc .expression)
  | some found =>
    obtain ⟨before, opener, after⟩ := found
    obtain ⟨hparts, hinert⟩ := eq_of_cutOpener? hc
    have hlen : gap.length = before.length :=
      Nat.le_antisymm (length_le_of_parts h hc) (length_le_of_mark hparts hinert)
    rw [List.append_assoc, List.append_assoc] at hparts
    obtain ⟨rfl, -⟩ := List.append_inj hparts hlen
    exact hinert

theorem parts_eq_text_iff {t : Text} : parts none t = .ok [.text t] ↔ Inert t := by
  refine ⟨fun h => ?_, parts_of_inert⟩
  rw [← cutOpener?_eq_none_iff]
  cases hc : cutOpener? t with
  | none => rfl
  | some found =>
    obtain ⟨before, opener, after⟩ := found
    have hlen := length_le_of_parts h hc
    have hshort := congrArg List.length (eq_of_cutOpener? hc).1
    simp only [List.length_append, Opener.mark, List.length_cons] at hshort
    omega

/-! ## What is shown -/

/-- The page can be read, and this text is shown. -/
def Shows (context : Json) (page t : Text) : Prop :=
  ∃ ps, parts none page = .ok ps ∧ showParts context ps = .ok t

theorem showParts_cons_eq (context : Json) (part : Part) (ps : List Part) :
    showParts context (part :: ps) =
      (part.shown context).bind fun s => (showParts context ps).map (s ++ ·) := by
  rw [showParts, showParts, List.mapM_cons]
  cases part.shown context with
  | error fault => rfl
  | ok s => cases ps.mapM (Part.shown context) <;> rfl

theorem showParts_cons {context : Json} {part : Part} {ps : List Part} {s t : Text}
    (hs : part.shown context = .ok s) (ht : showParts context ps = .ok t) :
    showParts context (part :: ps) = .ok (s ++ t) := by
  rw [showParts_cons_eq, hs, ht]
  rfl

theorem shows_text (context : Json) {t : Text} (h : '\x7b' ∉ t) : Shows context t t := by
  refine ⟨_, parts_of_inert (inert_of_notMem h), ?_⟩
  have hnil : showParts context [] = .ok [] := rfl
  have hpart : (Part.text t).shown context = .ok t := rfl
  have hshow := showParts_cons hpart hnil
  rwa [List.append_nil] at hshow

/-- An expression shows its value between what stands around it. -/
theorem Shows.expression {context : Json} {gap rest after t : Text} {ls : List Lexeme}
    {e : Expression} {v : Value} (h : Shows context after t) (hgap : Inert (gap ++ ['\x7b']))
    (hsign : takeSign rest = (none, rest)) (hbody : body 0 rest = (ls, some (none, after)))
    (he : Expression.ofLexemes ls = .ok e) (hv : e.value context = .ok v) :
    Shows context (gap ++ '\x7b' :: '\x7b' :: rest) (gap ++ v.display ++ t) := by
  obtain ⟨ps, hps, ht⟩ := h
  refine ⟨.text gap :: .value e :: ps, ?_, ?_⟩
  · rw [parts_expression hgap hsign hbody he, hps]
    rfl
  · have hshown : (Part.value e).shown context = .ok v.display := by
      rw [Part.shown, hv]
      rfl
    rw [List.append_assoc]
    have hgap : (Part.text gap).shown context = .ok gap := rfl
    exact showParts_cons hgap (showParts_cons hshown ht)

/-! ## The end of a page -/

theorem dropEnd_append {c : Char} {s : Text} (h : s.getLast? ≠ some c) (t : Text) :
    dropEnd c (s ++ t) = s ++ dropEnd c t := by
  rcases List.eq_nil_or_concat t with rfl | ⟨t, d, rfl⟩
  · rw [List.append_nil, dropEnd, if_neg h]
    exact (List.append_nil s).symm
  · rw [List.concat_eq_append, ← List.append_assoc, dropEnd, dropEnd, List.getLast?_concat,
      List.getLast?_concat]
    split
    · rw [List.dropLast_concat, List.dropLast_concat]
    · rw [List.append_assoc]

theorem dropLineBreak_append {s : Text} (hn : s.getLast? ≠ some '\n')
    (hr : s.getLast? ≠ some '\r') (t : Text) : dropLineBreak (s ++ t) = s ++ dropLineBreak t := by
  rw [dropLineBreak, dropEnd_append hn, dropEnd_append hr, dropLineBreak]

theorem dropLineBreak_eq_self {t : Text} (hn : t.getLast? ≠ some '\n')
    (hr : t.getLast? ≠ some '\r') : dropLineBreak t = t := by
  have happend := dropLineBreak_append hn hr []
  rw [List.append_nil] at happend
  exact happend.trans (List.append_nil t)

theorem inert_dropEnd_iff {c : Char} (hc : ∀ opener : Opener, c ∉ opener.mark) {t : Text} :
    Inert (dropEnd c t) ↔ Inert t := by
  rw [dropEnd]
  split
  · rename_i hlast
    obtain ⟨s, rfl⟩ := List.getLast?_eq_some_iff.mp hlast
    rw [List.dropLast_concat]
    refine forall_congr' fun opener => not_congr ?_
    rw [Text.infix_append_cons_iff (hc opener)]
    exact (or_iff_left fun h => by cases List.infix_nil.mp h).symm
  · exact Iff.rfl

theorem inert_dropLineBreak_iff {t : Text} : Inert (dropLineBreak t) ↔ Inert t := by
  rw [dropLineBreak, inert_dropEnd_iff, inert_dropEnd_iff]
  all_goals
    intro opener
    cases opener <;> decide

theorem getLast?_expression (p : Placeholder) : (expression p).getLast? = some '\x7d' := by
  have hend : " \x7d\x7d".toList = [' ', '\x7d'] ++ ['\x7d'] := rfl
  rw [expression, hend, ← List.append_assoc, List.getLast?_concat]

theorem Shows.render {context : Json} {page t : Text} (h : Shows context page t)
    (hn : page.getLast? ≠ some '\n') (hr : page.getLast? ≠ some '\r') :
    Jinja.render page context = .ok t := by
  obtain ⟨ps, hps, ht⟩ := h
  rw [Jinja.render, read, dropLineBreak_eq_self hn hr, hps]
  exact ht

end Stencil.Jinja
