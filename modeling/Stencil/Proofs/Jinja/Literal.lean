import Stencil.Proofs.Engine.Values
import Stencil.Proofs.Jinja.Closing
import Stencil.Proofs.Substitution.Gaps

/-!
# Literal text on converted pages

Conversion copies the text around placeholders, and Jinja shows a text as it is only if it finds no
opening braces in it. A brace right in front of an expression counts too, since the first two of the
three braces are the ones that are found. `InertAround` says that a template has neither.

* `ofTemplate_eq_interleave`: a converted template is its gaps with expressions between them.
* `parts_interleave`, `inert_of_parts_interleave`: such a page is read as its gaps and expressions,
  and only if its text is inert.
* `read_eq_ok_iff`, `render_of_inertAround`: the page of a template, as it is read and shown.
* `read_ofTemplate`: which texts, and which templates with compact expressions, keep their literal
  text on the page.
* `ofTemplate_braces`: braces in a text without placeholders, and a brace in front of one.
-/

namespace Stencil.Jinja

open Json (segments)
open Template (interleave)

/-! ## Pages of gaps and expressions -/

/-- Gaps, each with its expression behind it, and the rest at the end. -/
def pageParts (gaps : List Text) (es : List Expression) (rest : Text) : List Part :=
  (List.zipWith (fun gap e => [.text gap, .value e]) gaps es).flatten ++ [.text rest]

@[simp] theorem pageParts_nil (es : List Expression) (rest : Text) :
    pageParts [] es rest = [.text rest] := rfl

@[simp] theorem pageParts_cons (gap : Text) (gaps : List Text) (e : Expression)
    (es : List Expression) (rest : Text) :
    pageParts (gap :: gaps) (e :: es) rest = .text gap :: .value e :: pageParts gaps es rest := rfl

theorem showParts_pageParts (context : Json) (rest : Text) {gaps : List Text}
    {es : List Expression} (hlen : gaps.length = es.length) :
    showParts context (pageParts gaps es rest) =
      (es.mapM fun e => (Part.value e).shown context).map fun values =>
        interleave gaps values rest := by
  induction gaps generalizing es with
  | nil =>
    obtain rfl := List.length_eq_zero_iff.mp hlen.symm
    exact congrArg Except.ok (List.append_nil rest)
  | cons gap gaps ih =>
    obtain ⟨e, es, rfl⟩ := List.exists_cons_of_length_eq_add_one hlen.symm
    have hgap : (Part.text gap).shown context = .ok gap := rfl
    rw [pageParts_cons, showParts_cons_eq, showParts_cons_eq, ih (Nat.succ.inj hlen),
      List.mapM_cons, hgap]
    cases (Part.value e).shown context with
    | error fault => rfl
    | ok value =>
      cases es.mapM fun e => (Part.value e).shown context with
      | error fault => rfl
      | ok values =>
        have happend := interleave_cons gap value gaps values rest
        rw [List.append_assoc] at happend
        exact congrArg Except.ok happend.symm

section

variable {gaps : List Text} {ps : List Placeholder} {rest : Text}

/-- The page of gaps and expressions is read as what it was made from. -/
theorem parts_interleave (hlen : gaps.length = ps.length) (hclosed : ∀ p ∈ ps, Closed p)
    (hgaps : ∀ gap ∈ gaps, Inert (gap ++ ['\x7b'])) (hrest : Inert rest) :
    parts none (interleave gaps (ps.map expression) rest) =
      (ps.mapM Expression.readBack).map fun es => pageParts gaps es rest := by
  induction gaps generalizing ps with
  | nil =>
    obtain rfl := List.length_eq_zero_iff.mp hlen.symm
    exact parts_of_inert hrest
  | cons gap gaps ih =>
    obtain ⟨p, ps, rfl⟩ := List.exists_cons_of_length_eq_add_one hlen.symm
    rw [List.forall_mem_cons] at hclosed hgaps
    have hbody := body_of_closed hclosed.1 (interleave gaps (ps.map expression) rest)
    have hparts := parts_body hgaps.1 rfl hbody
    rw [ih (Nat.succ.inj hlen) hclosed.2 hgaps.2] at hparts
    rw [List.map_cons, interleave_cons, expression_eq, List.append_assoc, List.cons_append,
      List.cons_append, hparts, List.mapM_cons, Expression.readBack]
    cases Expression.ofLexemes (body 0 (insideText p)).1 with
    | error fault => rfl
    | ok e => cases ps.mapM Expression.readBack <;> rfl

/-- If the page is read as its gaps and expressions, then its text is inert. -/
theorem inert_of_parts_interleave {es : List Expression} (hlen : gaps.length = ps.length)
    (hclosed : ∀ p ∈ ps, Closed p) (hes : ps.mapM Expression.readBack = .ok es)
    (h : parts none (interleave gaps (ps.map expression) rest) = .ok (pageParts gaps es rest)) :
    (∀ gap ∈ gaps, Inert (gap ++ ['\x7b'])) ∧ Inert rest := by
  induction gaps generalizing ps es with
  | nil =>
    obtain rfl := List.length_eq_zero_iff.mp hlen.symm
    exact ⟨List.forall_mem_nil _, parts_eq_text_iff.mp h⟩
  | cons gap gaps ih =>
    obtain ⟨p, ps, rfl⟩ := List.exists_cons_of_length_eq_add_one hlen.symm
    rw [List.forall_mem_cons] at hclosed ⊢
    rw [List.mapM_cons] at hes
    obtain ⟨e, he, hes⟩ := exists_of_bind_eq_ok hes
    obtain ⟨more, hmore, hes⟩ := exists_of_bind_eq_ok hes
    cases hes
    rw [List.map_cons, interleave_cons, expression_eq, List.append_assoc, List.cons_append,
      List.cons_append, pageParts_cons] at h
    have hgap := inert_of_parts h
    have hbody := body_of_closed hclosed.1 (interleave gaps (ps.map expression) rest)
    rw [parts_expression hgap rfl hbody he] at h
    obtain ⟨parts, hparts, hcons⟩ := exists_of_map_eq_ok h
    cases hcons
    obtain ⟨hgaps, hrest⟩ := ih (Nat.succ.inj hlen) hclosed.2 hmore hparts
    exact ⟨⟨hgap, hgaps⟩, hrest⟩

end

/-! ## Converted templates -/

theorem getLast?_interleave {c d : Char} {gaps values : List Text}
    (hvalues : ∀ value ∈ values, value.getLast? = some d)
    (h : (interleave gaps values []).getLast? = some c) : c = d := by
  induction gaps generalizing values with
  | nil => cases h
  | cons gap gaps ih =>
    cases values with
    | nil => cases h
    | cons value values =>
      rw [List.forall_mem_cons] at hvalues
      rw [interleave_cons, List.getLast?_append] at h
      rcases Option.or_eq_some_iff.mp h with h | ⟨-, h⟩
      · exact ih hvalues.2 h
      · rw [List.getLast?_append, hvalues.1, Option.some_or] at h
        exact (Option.some.inj h).symm

/-- The last line break of a page is in the rest. -/
theorem dropLineBreak_interleave (gaps : List Text) (ps : List Placeholder) (rest : Text) :
    dropLineBreak (interleave gaps (ps.map expression) rest) =
      interleave gaps (ps.map expression) (dropLineBreak rest) := by
  have hlast : ∀ c, (interleave gaps (ps.map expression) []).getLast? = some c → c = '\x7d' := by
    intro c
    apply getLast?_interleave
    intro value hvalue
    obtain ⟨p, -, rfl⟩ := List.mem_map.mp hvalue
    exact getLast?_expression p
  have hnot : ∀ c, c ≠ '\x7d' →
      (interleave gaps (ps.map expression) []).getLast? ≠ some c := fun c hc h => hc (hlast c h)
  have happend := interleave_append gaps (ps.map expression) []
  calc dropLineBreak (interleave gaps (ps.map expression) rest)
      = dropLineBreak (interleave gaps (ps.map expression) [] ++ rest) :=
        congrArg dropLineBreak (happend rest)
    _ = interleave gaps (ps.map expression) [] ++ dropLineBreak rest :=
        dropLineBreak_append (hnot _ (by decide)) (hnot _ (by decide)) rest
    _ = interleave gaps (ps.map expression) (dropLineBreak rest) := (happend _).symm

/-- An expression that is written without an opener keeps openers apart. -/
theorem separates_expression {p : Placeholder}
    (h : ¬ ({} : Delimiters).opener <:+: expression p) :
    Separates ({} : Delimiters).opener (expression p) := by
  have hparts : expression p =
      '\x7b' :: (['\x7b', ' '] ++ placeholderText p ++ [' ', '\x7d'] ++ ['\x7d']) := by
    rw [expression_eq, insideText]
    simp
  rw [hparts] at h ⊢
  apply separates_of_ends (by decide) (by decide)
  intro hm
  apply h
  exact hm.trans ⟨['\x7b'], ['\x7d'], by simp⟩

theorem ofTemplate_eq_interleave {source : Text} (h : ∀ token ∈ (Template.parse {} source).tokens,
      ¬ ({} : Delimiters).opener <:+: expression token.toPlaceholder) :
    ofTemplate (.parse {} source) = interleave (Template.parse {} source).gaps
      ((Template.parse {} source).tokens.map fun token => expression token.toPlaceholder)
      (Template.parse {} source).rest := by
  apply Template.map_eq_interleave (by decide) (by decide)
  · intro token htoken
    exact opener_prefix_of_mem_scanFrom (by decide) htoken
  · intro token htoken
    exact separates_expression (h token htoken)

/-- No braces in the text around the placeholders open anything on the page. -/
structure InertAround (template : Template) : Prop where
  gaps : ∀ gap ∈ template.gaps, Inert gap ∧ gap.getLast? ≠ some '\x7b'
  rest : Inert template.rest

theorem inertAround_iff {template : Template} : InertAround template ↔
    (∀ gap ∈ template.gaps, Inert (gap ++ ['\x7b'])) ∧ Inert template.rest := by
  simp only [inert_concat_iff]
  exact ⟨fun h => ⟨h.gaps, h.rest⟩, fun h => ⟨h.1, h.2⟩⟩

/-- An expression that ends where it was written to end, without an opener in it. -/
structure Compact (p : Placeholder) : Prop where
  closed : Closed p
  opener : ¬ ({} : Delimiters).opener <:+: expression p

/-- The expressions of a template, as they are read. -/
def expressions (template : Template) : Except Fault (List Expression) :=
  (template.tokens.map Token.toPlaceholder).mapM Expression.readBack

theorem length_of_mapM_eq_ok {α β : Type} {f : α → Except Fault β} {l : List α} {bs : List β}
    (h : l.mapM f = .ok bs) : bs.length = l.length := by
  induction l generalizing bs with
  | nil =>
    cases h
    rfl
  | cons a l ih =>
    rw [List.mapM_cons] at h
    obtain ⟨b, -, h⟩ := exists_of_bind_eq_ok h
    obtain ⟨more, hmore, h⟩ := exists_of_bind_eq_ok h
    cases h
    exact congrArg Nat.succ (ih hmore)

theorem length_of_expressions {template : Template} {es : List Expression}
    (h : expressions template = .ok es) : template.gaps.length = es.length := by
  rw [length_of_mapM_eq_ok h, List.length_map, Template.length_gaps]

section

variable {source : Text} (hcompact : ∀ token ∈ (Template.parse {} source).tokens,
  Compact token.toPlaceholder)

include hcompact

/-- The line break that is dropped from the page is the one at the end of the template. -/
theorem read_ofTemplate_eq :
    read (ofTemplate (.parse {} source)) = parts none (interleave (Template.parse {} source).gaps
      (((Template.parse {} source).tokens.map Token.toPlaceholder).map expression)
      (dropLineBreak (Template.parse {} source).rest)) := by
  rw [read, ofTemplate_eq_interleave fun token htoken => (hcompact token htoken).opener,
    ← dropLineBreak_interleave, List.map_map]
  rfl

theorem closed_of_compact :
    ∀ p ∈ (Template.parse {} source).tokens.map Token.toPlaceholder, Closed p := by
  intro p hp
  obtain ⟨token, htoken, rfl⟩ := List.mem_map.mp hp
  exact (hcompact token htoken).closed

theorem read_of_inertAround (h : InertAround (.parse {} source)) :
    read (ofTemplate (.parse {} source)) = (expressions (.parse {} source)).map fun es =>
      pageParts (Template.parse {} source).gaps es
        (dropLineBreak (Template.parse {} source).rest) := by
  obtain ⟨hgaps, hrest⟩ := inertAround_iff.mp h
  rw [read_ofTemplate_eq hcompact]
  apply parts_interleave _ (closed_of_compact hcompact) hgaps (inert_dropLineBreak_iff.mpr hrest)
  rw [Template.length_gaps, List.length_map]

/-- The page is read as the gaps and the expressions exactly if the text is inert. -/
theorem read_eq_ok_iff {es : List Expression} (hes : expressions (.parse {} source) = .ok es) :
    read (ofTemplate (.parse {} source)) = .ok (pageParts (Template.parse {} source).gaps es
      (dropLineBreak (Template.parse {} source).rest)) ↔ InertAround (.parse {} source) := by
  constructor
  · intro h
    rw [read_ofTemplate_eq hcompact] at h
    have hlen : (Template.parse {} source).gaps.length =
        ((Template.parse {} source).tokens.map Token.toPlaceholder).length := by
      rw [Template.length_gaps, List.length_map]
    obtain ⟨hgaps, hrest⟩ := inert_of_parts_interleave hlen (closed_of_compact hcompact) hes h
    exact inertAround_iff.mpr ⟨hgaps, inert_dropLineBreak_iff.mp hrest⟩
  · intro h
    rw [read_of_inertAround hcompact h, hes]
    rfl

theorem render_of_inertAround (h : InertAround (.parse {} source)) (context : Json) :
    render (ofTemplate (.parse {} source)) context = (do
      let es ← expressions (.parse {} source)
      let values ← es.mapM fun e => (Part.value e).shown context
      pure (interleave (Template.parse {} source).gaps values
        (dropLineBreak (Template.parse {} source).rest))) := by
  rw [render, read_of_inertAround hcompact h]
  cases hes : expressions (.parse {} source) with
  | error fault => rfl
  | ok es =>
    refine (showParts_pageParts context _ (length_of_expressions hes)).trans ?_
    show _ = (es.mapM fun e => (Part.value e).shown context).bind _
    cases es.mapM fun e => (Part.value e).shown context <;> rfl

end

/-! ## Templates without placeholders -/

theorem result_render_of_tokens_eq_nil {σ : Type} (e : Engine σ) (metadata : Json)
    {template : Template} (h : template.tokens = []) (memory : σ) :
    (e.render template metadata memory).result = .ok template.source := by
  have hfilled : template.filled [] = template.source := by
    rw [Template.filled, List.zip_nil_right, Template.fill_nil]
  rw [Engine.render_eq, h, ← hfilled]
  rfl

theorem gaps_of_tokens_eq_nil {template : Template} (h : template.tokens = []) :
    template.gaps = [] ∧ template.rest = template.source := by
  rw [Template.gaps, Template.rest, h]
  exact ⟨rfl, Text.skip_zero _⟩

section

variable {source : Text} (h : (Template.parse {} source).tokens = [])

include h

theorem compact_of_tokens_eq_nil :
    ∀ token ∈ (Template.parse {} source).tokens, Compact token.toPlaceholder := by
  rw [h]
  exact List.forall_mem_nil _

theorem expressions_of_tokens_eq_nil : expressions (.parse {} source) = .ok [] := by
  rw [expressions, h]
  rfl

theorem inertAround_of_tokens_eq_nil_iff : InertAround (.parse {} source) ↔ Inert source := by
  obtain ⟨hgaps, hrest⟩ := gaps_of_tokens_eq_nil h
  rw [inertAround_iff, hgaps, hrest]
  exact and_iff_right (List.forall_mem_nil _)

theorem read_eq_text_iff :
    read (ofTemplate (.parse {} source)) = .ok [.text (dropLineBreak source)] ↔ Inert source := by
  have hread := read_eq_ok_iff (compact_of_tokens_eq_nil h) (expressions_of_tokens_eq_nil h)
  obtain ⟨hgaps, hrest⟩ := gaps_of_tokens_eq_nil h
  rwa [hgaps, hrest, pageParts_nil, inertAround_of_tokens_eq_nil_iff h] at hread

theorem render_of_inert (hinert : Inert source) (context : Json) :
    render (ofTemplate (.parse {} source)) context = .ok (dropLineBreak source) := by
  obtain ⟨hgaps, hrest⟩ := gaps_of_tokens_eq_nil h
  rw [render_of_inertAround (compact_of_tokens_eq_nil h)
    ((inertAround_of_tokens_eq_nil_iff h).mpr hinert), expressions_of_tokens_eq_nil h, hgaps, hrest]
  rfl

end

/-! ## All templates -/

/-- **Literal text on converted pages.** A text without placeholders is rendered unchanged by every
engine. Its converted page is read as that text, without a line break at its end, exactly if there
are no opening braces in it, and then it is shown as it is.

In any template, the gaps are what stands around the source texts of the tokens. If its expressions
are compact and can be read, then the page is read as those gaps with the expressions between them
exactly if no braces in the gaps open anything, not even with the brace of an expression behind
them; and then the page shows the gaps as they are with the values of the expressions between them,
or fails as the expressions do. An expression is closed if the names in it are names in Jinja
too.

Nothing is said of a template with an expression that is not compact, and its literal text may be
lost without any braces in it. If the expression is not closed, braces or quotes of a path or a name
end it too early or too late. If there is an opener in a fallback text or an argument, then what
begins with this opener, perhaps with some of the text behind the expression, may be the source text
of a later placeholder, which is then replaced there. -/
theorem read_ofTemplate (source : Text) :
    let template := Template.parse {} source
    let page := ofTemplate template
    (template.tokens = [] →
      (∀ (σ : Type) (e : Engine σ) (metadata : Json) (memory : σ),
        (e.render template metadata memory).result = .ok source) ∧
      (read page = .ok [.text (dropLineBreak source)] ↔ Inert source) ∧
      (Inert source → ∀ context, render page context = .ok (dropLineBreak source))) ∧
    source = interleave template.gaps (template.tokens.map Token.raw) template.rest ∧
    ((∀ token ∈ template.tokens, Compact token.toPlaceholder) →
      (∀ es, expressions template = .ok es →
        (read page = .ok (pageParts template.gaps es (dropLineBreak template.rest)) ↔
          InertAround template)) ∧
      (InertAround template → ∀ context, render page context = do
        let es ← expressions template
        let values ← es.mapM fun e => (Part.value e).shown context
        pure (interleave template.gaps values (dropLineBreak template.rest)))) ∧
    ∀ p : Placeholder, (∀ name ∈ segments p.path, isIdentifier name = true) →
      (∀ call ∈ p.calls, isIdentifier call.name = true) →
      Closed p ∧ ((∀ name ∈ (segments p.path).head?, name ∉ Expression.reservedWords) →
        Expression.readBack p = (Expression.selected p).afterCalls p.calls) := by
  intro template page
  refine ⟨?_, Template.source_eq_interleave {} source, ?_, ?_⟩
  · intro htokens
    refine ⟨?_, read_eq_text_iff htokens, render_of_inert htokens⟩
    intro σ e metadata memory
    exact result_render_of_tokens_eq_nil e metadata htokens memory
  · intro hcompact
    exact ⟨fun es => read_eq_ok_iff hcompact, render_of_inertAround hcompact⟩
  · intro p hpath hcalls
    exact ⟨closed_of_identifiers hpath hcalls, Expression.readBack_of_identifiers hpath hcalls⟩

/-- Single braces, braces that close nothing, and an opener that is never closed. -/
theorem read_ofTemplate_single_braces :
    let literal := Template.parse {} "a \x7bb\x7d 100%\x7d \x7d\x7d\r\n".toList
    let template := Template.parse {} "\x7b <<@user:name->upper@>>[(you)] \x7d <<@".toList
    let context := Json.object [("user".toList, .object [("name".toList, .string "ann".toList)])]
    (literal.tokens = [] ∧ Inert literal.source ∧
      render (ofTemplate literal) (.object []) = .ok "a \x7bb\x7d 100%\x7d \x7d\x7d".toList) ∧
    (∀ token ∈ template.tokens, Compact token.toPlaceholder) ∧ InertAround template ∧
      render (ofTemplate template) context = .ok "\x7b ANN \x7d <<@".toList := by
  intro literal template context
  have hliteral : literal.tokens = [] := by decide +kernel
  have hinert : Inert literal.source := by decide +kernel
  have htokens : template.tokens.map Token.toPlaceholder =
      [⟨some "user".toList, "name".toList, [⟨"upper".toList, []⟩], some "you".toList⟩] := by
    decide +kernel
  have hcompact : ∀ token ∈ template.tokens, Compact token.toPlaceholder := by
    intro token htoken
    have hmem := (congrArg (token.toPlaceholder ∈ ·) htokens).mp (List.mem_map_of_mem htoken)
    rw [List.mem_singleton.mp hmem]
    exact ⟨closed_of_identifiers (by decide) (by decide), by decide +kernel⟩
  have hgaps : template.gaps = ["\x7b ".toList] ∧ template.rest = " \x7d <<@".toList := by
    decide +kernel
  have haround : InertAround template := by
    refine ⟨?_, ?_⟩
    · rw [hgaps.1]
      decide +kernel
    · rw [hgaps.2]
      decide +kernel
  refine ⟨⟨hliteral, hinert, ((read_ofTemplate _).1 hliteral).2.2 hinert _⟩, hcompact, haround, ?_⟩
  refine (((read_ofTemplate _).2.2.1 hcompact).2 haround context).trans ?_
  decide +kernel

/-- Braces in a text without placeholders show a value, and a brace in front of a placeholder is
taken for a brace of its expression. -/
theorem ofTemplate_braces :
    (let template := Template.parse {} "\x7b\x7b x \x7d\x7d".toList;
      template.tokens = [] ∧
        (({} : Engine Unit).render template (.object []) ()).result = .ok template.source ∧
        render (ofTemplate template) (.object []) ≠ .ok (dropLineBreak template.source)) ∧
    (let template := Template.parse {} "\x7b<<@a@>>[(x)]".toList;
      (({} : Engine Unit).render template (.object []) ()).result = .ok "\x7bx".toList ∧
        render (ofTemplate template) (.object []) = .error .syntaxError) := by
  decide +kernel

/-- An opener in a fallback text. On the page, the source text of the second placeholder begins with
it and ends in the text behind the expression, part of which is lost. The second placeholder
stays. -/
example :
    let template := Template.parse {} "<<@a@>>[(<<@)]b@>> <<@\") \x7d\x7db@>>".toList
    template.gaps = [[], "b@>> ".toList] ∧ template.rest = [] ∧
      render (ofTemplate template) (.object []) =
        .ok "\x7b\x7b b \x7d\x7d <<@\") \x7d\x7db@>>".toList := by
  decide +kernel

end Stencil.Jinja
