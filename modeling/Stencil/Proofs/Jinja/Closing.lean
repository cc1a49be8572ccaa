import Stencil.Proofs.Jinja.Faithful

/-!
# Where expressions end

An expression is read up to the closing braces that its lexemes lead to, and nothing behind them is
looked at. `Closed p` says that the closing braces of the expression of `p` are the ones that it was
written with. Then it is read as the same wherever it stands in a page.

* `lexeme_append`, `body_append`: reading is not changed by what follows.
* `body_of_closed`: a closed expression in front of any text.
* `closed_of_identifiers`: names that are names in Jinja too make an expression closed.
-/

namespace Stencil.Jinja

open Json (segments)

/-! ## One lexeme -/

theorem cutString?_append {quote : Char} (hq : quote ≠ '\\') {t inner rest : Text}
    (h : cutString? quote t = some (inner, rest)) (after : Text) :
    cutString? quote (t ++ after) = some (inner, rest ++ after) := by
  fun_induction cutString? quote t generalizing inner rest with
  | case1 => cases h
  | case2 c t ih =>
    obtain ⟨⟨_, _⟩, hp, hr⟩ := Option.map_eq_some_iff.mp h
    cases hr
    rw [List.cons_append, List.cons_append, cutString?, ih hp]
    rfl
  | case3 t hc =>
    cases h
    rw [List.cons_append, cutString?_cons quote hq, if_pos rfl]
  | case4 c t hc hne ih =>
    obtain ⟨⟨_, _⟩, hp, hr⟩ := Option.map_eq_some_iff.mp h
    cases hr
    have hback : c ≠ '\\' := by
      rintro rfl
      cases t with
      | nil => cases hp
      | cons d t => exact hc d t rfl rfl
    rw [List.cons_append, cutString?_cons quote hback, if_neg hne, ih hp]
    rfl

theorem stringLexeme_append {quote : Char} (hq : quote ≠ '\\') {t : Text}
    (h : (stringLexeme quote t).2 ≠ []) (after : Text) :
    stringLexeme quote (t ++ after) =
      ((stringLexeme quote t).1, (stringLexeme quote t).2 ++ after) := by
  cases hc : cutString? quote t with
  | none =>
    rw [stringLexeme, hc] at h
    exact absurd rfl h
  | some found =>
    obtain ⟨inner, rest⟩ := found
    have happend := cutString?_append hq hc after
    cases hu : unescape? inner with
    | none =>
      simp only [stringLexeme, hc, hu] at h
      exact absurd rfl h
    | some text => simp only [stringLexeme, hc, happend, hu]

/-- What follows decides whether a character belongs to a number only for a point at the very end,
which a name might follow. -/
theorem next?_append {part : NumberPart} {c : Char} {t : Text}
    (h : part.next? c t = none ∨ t ≠ []) (after : Text) :
    part.next? c (t ++ after) = part.next? c t := by
  cases t with
  | cons d t => cases part <;> rfl
  | nil =>
    have hnone := h.resolve_right (fun hne => hne rfl)
    cases part with
    | whole =>
      have hpoint : c ≠ '.' := by
        rintro rfl
        cases hnone
      simp only [NumberPart.next?, if_neg hpoint]
    | fraction => rfl
    | exponentSign => rfl
    | exponent => rfl

theorem spanNumber_append {part : NumberPart} {t : Text} (h : (spanNumber part t).2.2 ≠ [])
    (after : Text) :
    spanNumber part (t ++ after) = ((spanNumber part t).1, (spanNumber part t).2.1,
      (spanNumber part t).2.2 ++ after) := by
  induction t generalizing part with
  | nil => exact absurd rfl h
  | cons c t ih =>
    cases hn : part.next? c t with
    | none =>
      have happend := (next?_append (.inl hn) after).trans hn
      rw [List.cons_append, spanNumber, spanNumber, happend, hn]
      rfl
    | some next =>
      rw [spanNumber, hn] at h
      have hne : t ≠ [] := by
        rintro rfl
        exact h rfl
      have happend := (next?_append (.inr hne) after).trans hn
      rw [List.cons_append, spanNumber, spanNumber, happend, hn]
      simp only [ih h]

theorem span_append {p : Char → Bool} {t : Text} (h : t.dropWhile p ≠ []) (after : Text) :
    (t ++ after).takeWhile p = t.takeWhile p ∧
      (t ++ after).dropWhile p = t.dropWhile p ++ after := by
  have hlen : (t.takeWhile p).length ≠ t.length := by
    intro heq
    have hparts := congrArg List.length (List.takeWhile_append_dropWhile (p := p) (l := t))
    rw [List.length_append, heq] at hparts
    exact h (List.length_eq_zero_iff.mp (by omega))
  constructor
  · rw [List.takeWhile_append, if_neg hlen]
  · rw [List.dropWhile_append, if_neg (by simpa using h)]

theorem ne_nil_of_length_le {rest t : Text} (h : rest ≠ []) (hlen : rest.length ≤ t.length) :
    t ≠ [] := by
  rintro rfl
  exact h (List.length_eq_zero_iff.mp (Nat.le_zero.mp hlen))

theorem numberLexeme_append {first : Char} {t : Text} (h : (numberLexeme first t).2 ≠ [])
    (after : Text) :
    numberLexeme first (t ++ after) =
      ((numberLexeme first t).1, (numberLexeme first t).2 ++ after) := by
  obtain ⟨d, t, rfl⟩ :=
    List.exists_cons_of_ne_nil (ne_nil_of_length_le h (numberLexeme_length first t))
  unfold numberLexeme at h ⊢
  simp only [List.cons_append, List.head?_cons, List.tail_cons] at h ⊢
  cases hr : ((some d).bind radix?).filter fun _ => first = '0' with
  | some radix =>
    rw [hr] at h
    obtain ⟨htake, hdrop⟩ := span_append h after
    simp only [htake, hdrop]
  | none =>
    rw [hr] at h
    have happend := spanNumber_append h after
    rw [List.cons_append] at happend
    simp only [happend]

/-- A lexeme with something behind it is not changed by what follows. -/
theorem lexeme_append {c : Char} {t : Text} (h : (lexeme c t).2 ≠ []) (after : Text) :
    lexeme c (t ++ after) = ((lexeme c t).1, (lexeme c t).2 ++ after) := by
  have hne := ne_nil_of_length_le h (lexeme_length c t)
  have hhead : (t ++ after).head? = t.head? := List.head?_append_of_ne_nil _ hne
  unfold lexeme at h ⊢
  rw [hhead]
  cases hlong : t.head?.bind (longOperator? c) with
  | some op =>
    simp only [List.tail_append_of_ne_nil hne]
  | none =>
    simp only [hlong] at h ⊢
    cases hmark : mark? c with
    | some l => rfl
    | none =>
      simp only [hmark] at h ⊢
      split at h
      · rename_i hquote
        have hq : c ≠ '\\' := by
          rintro rfl
          exact absurd hquote (by decide)
        rw [if_pos hquote, if_pos hquote]
        exact stringLexeme_append hq h after
      · rename_i hquote
        rw [if_neg hquote, if_neg hquote]
        split at h
        · rename_i hdigit
          rw [if_pos hdigit, if_pos hdigit]
          exact numberLexeme_append h after
        · rename_i hdigit
          rw [if_neg hdigit, if_neg hdigit]
          split at h
          · rename_i hname
            obtain ⟨htake, hdrop⟩ := span_append h after
            rw [if_pos hname, if_pos hname, htake, hdrop]
          · exact absurd rfl h

/-! ## Whole expressions -/

theorem ending?_append {t rest : Text} {sign : Option Sign} (h : ending? t = some (sign, rest))
    (after : Text) : ending? (t ++ after) = some (sign, rest ++ after) := by
  unfold ending? at h
  split at h
  all_goals cases h
  all_goals rfl

theorem ending?_append_of_none {t : Text} (h : ending? t = none) (hlen : 3 ≤ t.length)
    (after : Text) : ending? (t ++ after) = none := by
  match t, hlen with
  | a :: b :: c :: t, _ =>
    unfold ending?
    split
    · rename_i heq
      cases heq
      cases h
    · rename_i heq
      cases heq
      cases h
    · rename_i heq
      cases heq
      cases h
    · rfl

/-- Braces that end nothing, since brackets are open, do not end anything in a longer text. -/
theorem filter_ending?_append {atEnd : Bool} {t : Text}
    (h : (ending? t).filter (fun _ => atEnd) = none) (hlen : 3 ≤ t.length) (after : Text) :
    (ending? (t ++ after)).filter (fun _ => atEnd) = none := by
  cases he : ending? t with
  | none =>
    rw [ending?_append_of_none he hlen]
    rfl
  | some found =>
    rw [he] at h
    rw [ending?_append he]
    simpa using h

/-- The closing braces take up two characters. -/
theorem two_le_of_ending? {t : Text} {found : Option Sign × Text} (h : ending? t = some found) :
    2 ≤ t.length := by
  unfold ending? at h
  split at h
  · exact Nat.le_add_left 2 _
  · exact Nat.le_add_left 2 _
  · exact Nat.le_add_left 2 _
  · cases h

theorem two_le_of_body {depth : Nat} {t : Text} {found : Option Sign × Text}
    (h : (body depth t).2 = some found) : 2 ≤ t.length := by
  fun_induction body depth t with
  | case1 => cases h
  | case2 depth c t hspace ih => exact Nat.le_succ_of_le (ih h)
  | case3 depth c t hspace found hf => exact two_le_of_ending? (Option.eq_some_of_filter_eq_some hf)
  | case4 depth c t hspace hf l ls found hb ih =>
    rw [hb] at ih
    exact Nat.le_succ_of_le (Nat.le_trans (ih h) (lexeme_length c t))

/-- What is read up to the closing braces is not changed by what follows. -/
theorem body_append {depth : Nat} {t rest : Text} {ls : List Lexeme} {sign : Option Sign}
    (h : body depth t = (ls, some (sign, rest))) (after : Text) :
    body depth (t ++ after) = (ls, some (sign, rest ++ after)) := by
  fun_induction body depth t generalizing ls with
  | case1 => cases h
  | case2 depth c t hspace ih =>
    rw [List.cons_append, body_space hspace]
    exact ih h
  | case3 depth c t hspace found hf =>
    cases h
    rw [Option.filter_eq_some_iff, decide_eq_true_iff] at hf
    obtain ⟨hend, rfl⟩ := hf
    have happend := ending?_append hend after
    rw [List.cons_append] at happend ⊢
    rw [body, if_neg hspace, happend]
    rfl
  | case4 depth c t hspace hf l ls' found hb =>
    rename_i ih
    cases h
    have htwo := two_le_of_body (congrArg Prod.snd hb)
    have hlen : 3 ≤ (c :: t).length :=
      Nat.succ_le_succ (Nat.le_trans htwo (lexeme_length c t))
    have hne : (lexeme c t).2 ≠ [] := List.ne_nil_of_length_pos (by omega)
    have hend := filter_ending?_append hf hlen after
    have hmore := ih hb
    simp only [l] at hmore ⊢
    rw [List.cons_append] at hend ⊢
    rw [body, if_neg hspace, hend, lexeme_append hne]
    simp only [hmore]

/-! ## Placeholders -/

/-- The closing braces that the lexemes lead to are the ones at the end of the expression. -/
def Closed (p : Placeholder) : Prop := (body 0 (insideText p)).2 = some (none, [])

instance (p : Placeholder) : Decidable (Closed p) :=
  inferInstanceAs (Decidable ((body 0 (insideText p)).2 = some (none, [])))

/-- What the expression of a placeholder is read as. -/
def Expression.readBack (p : Placeholder) : Except Fault Expression :=
  ofLexemes (body 0 (insideText p)).1

theorem body_of_closed {p : Placeholder} (h : Closed p) (after : Text) :
    body 0 (insideText p ++ after) = ((body 0 (insideText p)).1, some (none, after)) :=
  body_append (Prod.ext rfl h) after

section

variable {p : Placeholder} (hpath : ∀ name ∈ segments p.path, isIdentifier name = true)
  (hcalls : ∀ call ∈ p.calls, isIdentifier call.name = true)

include hpath hcalls

theorem closed_of_identifiers : Closed p := congrArg Prod.snd (body_insideText hpath hcalls)

theorem Expression.readBack_of_identifiers
    (hfirst : ∀ name ∈ (segments p.path).head?, name ∉ reservedWords) :
    readBack p = (selected p).afterCalls p.calls := by
  rw [readBack, body_insideText hpath hcalls, ofLexemes_placeholder hfirst]

end

end Stencil.Jinja
