import Stencil.Jinja.Conversion
import Stencil.Proofs.Engine.Standard
import Stencil.Proofs.Jinja.Evaluation
import Stencil.Proofs.Jinja.Pages
import Stencil.Proofs.Substitution.Splicing

/-!
# Renderings agree with converted pages

A template that keeps to what both languages know is rendered to the same text by an engine and,
when it is converted to a page, by Jinja. `Portable` says of a placeholder that it keeps to this:
names that Jinja reads as names, standard transforms without arguments, and a value that both sides
find or both sides miss.

* `exists_filterings`: the expression of a portable placeholder is one that can be read.
* `shows_spliceFrom`: the page between the gaps of the template shows the values of the tokens.
* `render_eq_render_ofTemplate`: the two renderings.
-/

namespace Stencil

open Json (segments follow?)

namespace Jinja

/-! ## Placeholders that both languages understand -/

/-- The text that a placeholder starts from: the one at its path, or its fallback text where nothing
is found. -/
inductive StartsFrom (metadata : Json) (p : Placeholder) : Text → Prop
  | found {t : Text} (value : metadata.resolve? p.path = some (.string t)) :
      StartsFrom metadata p t
  | missing {t : Text} (value : follow? (segments p.path) metadata = none)
      (fallback : p.fallback = some t) : StartsFrom metadata p t

/-- A placeholder that means the same to an engine and to Jinja. -/
structure Portable (metadata : Json) (p : Placeholder) : Prop where
  names : ∀ name ∈ segments p.path, isIdentifier name = true
  first : ∀ name ∈ (segments p.path).head?, name ∉ Expression.reservedWords ∧ name ∉ functions
  calls : ∀ call ∈ p.calls, call.name ∈ Entries.keys Transform.builtIns ∧ call.args = []
  objects : ∀ q rest, p.path = q ++ '.' :: rest →
    ∃ fields, metadata.resolve? q = some (.object fields)
  starts : ∃ t, StartsFrom metadata p t ∧ '<' ∉ t
  fallback : ∀ t ∈ p.fallback, '<' ∉ t

/-- The text that is shown in the place of a portable placeholder. -/
def shownText (metadata : Json) (p : Placeholder) : Text :=
  Transform.through p.calls
    (match metadata.resolve? p.path with
    | some (.string t) => t
    | _ => p.fallbackText)

section

variable {fields : Entries Json} {p : Placeholder}

theorem Portable.path_ne_nil {metadata : Json} (h : Portable metadata p) : p.path ≠ [] := by
  intro hpath
  have hmem : [] ∈ segments p.path := by
    rw [hpath]
    exact List.mem_singleton_self _
  exact absurd (h.names [] hmem) (by decide)

/-! ## The engine -/

theorem resolve?_of_missing (hkeys : ∀ key ∈ Entries.keys fields, '.' ∉ key) (hpath : p.path ≠ [])
    (h : follow? (segments p.path) (.object fields) = none) :
    (Json.object fields).resolve? p.path = none := by
  rw [Json.resolve?_eq_follow? hkeys hpath, h, Option.bind_none]

theorem StartsFrom.shownText_eq (hkeys : ∀ key ∈ Entries.keys fields, '.' ∉ key)
    (hpath : p.path ≠ []) {t : Text} (h : StartsFrom (.object fields) p t) :
    shownText (.object fields) p = Transform.through p.calls t := by
  rw [shownText]
  cases h with
  | found value => rw [value]
  | missing value fallback =>
    rw [resolve?_of_missing hkeys hpath value, Placeholder.fallbackText, fallback]
    rfl

theorem StartsFrom.select_eq (hkeys : ∀ key ∈ Entries.keys fields, '.' ∉ key)
    (hpath : p.path ≠ []) {t : Text} (h : StartsFrom (.object fields) p t) {σ : Type}
    (e : Engine σ) : e.select (.object fields) p = .ok t := by
  rw [Engine.select]
  cases h with
  | found value =>
    rw [value]
    rfl
  | missing value fallback => rw [resolve?_of_missing hkeys hpath value, fallback]

theorem Portable.result_value (h : Portable (.object fields) p)
    (hkeys : ∀ key ∈ Entries.keys fields, '.' ∉ key) {σ : Type} {e : Engine σ}
    (he : e.registry = .standard) (memory : σ) :
    (e.value (.object fields) p memory).result = .ok (shownText (.object fields) p) := by
  obtain ⟨t, hstarts, -⟩ := h.starts
  rw [hstarts.shownText_eq hkeys h.path_ne_nil]
  exact Engine.result_value_standard he (hstarts.select_eq hkeys h.path_ne_nil e)
    (fun call hcall => (h.calls call hcall).1) memory

theorem Portable.notMem_shownText (h : Portable (.object fields) p)
    (hkeys : ∀ key ∈ Entries.keys fields, '.' ∉ key) : '<' ∉ shownText (.object fields) p := by
  obtain ⟨t, hstarts, ht⟩ := h.starts
  rw [hstarts.shownText_eq hkeys h.path_ne_nil]
  have hsign : Text.IsSign '<' := ⟨by decide, by decide⟩
  exact Transform.notMem_through hsign (fun call hcall => (h.calls call hcall).1) ht

end

/-! ## The expression -/

/-- The filter that puts a text in the place of what is missing. -/
def Filtering.default (t : Text) : Filtering where
  name := "default".toList
  args := [.literal t]
  isName := by decide
  few := by rw [List.length_singleton]; decide

/-- A filter without arguments. -/
def Filtering.plain (name : Text) (h : isIdentifier name = true) : Filtering where
  name := name
  args := []
  isName := h
  few := Nat.zero_le _

theorem isIdentifier_of_mem_builtIns {name : Text} (h : name ∈ Entries.keys Transform.builtIns) :
    isIdentifier name = true := by
  have key : ∀ name ∈ Entries.keys Transform.builtIns, isIdentifier name = true := by decide
  exact key name h

/-- Standard calls are filters that apply the chain. -/
theorem exists_filterings_calls {calls : List Call}
    (h : ∀ call ∈ calls, call.name ∈ Entries.keys Transform.builtIns ∧ call.args = []) :
    ∃ fs : List Filtering,
      (calls.flatMap fun call => filter call.name (call.args.map argument)) =
        fs.flatMap Filtering.text ∧
      ∀ {context : Json} {e : Expression} {t : Text}, e.value context = .ok (.string t) →
        (fs.foldl Filtering.around e).value context =
          .ok (.string (Transform.through calls t)) := by
  induction calls with
  | nil => exact ⟨[], rfl, fun he => he⟩
  | cons call more ih =>
    obtain ⟨hname, hargs⟩ := h call List.mem_cons_self
    obtain ⟨fs, htext, hvalue⟩ := ih fun other hother => h other (List.mem_cons_of_mem _ hother)
    refine ⟨.plain call.name (isIdentifier_of_mem_builtIns hname) :: fs, ?_, ?_⟩
    · rw [List.flatMap_cons, List.flatMap_cons, htext, hargs]
      rfl
    · intro context e t he
      exact hvalue (Expression.value_builtIn (Transform.mem_builtIns hname) he)

section

variable {fields : Entries Json} {p : Placeholder}

/-- A fallback text is a filter that gives it where nothing is found, and nothing else. -/
theorem exists_filterings_fallback (hkeys : ∀ key ∈ Entries.keys fields, '.' ∉ key)
    (hpath : p.path ≠ []) {t : Text} (h : StartsFrom (.object fields) p t) {e : Expression}
    (he : e.value (.object fields) =
      .ok (.ofFound (follow? (segments p.path) (.object fields)))) :
    ∃ fs : List Filtering,
      (match p.fallback with
        | some text => filter "default".toList [Json.literal text]
        | none => []) = fs.flatMap Filtering.text ∧
      (fs.foldl Filtering.around e).value (.object fields) = .ok (.string t) := by
  cases h with
  | found value =>
    rw [Json.resolve?_eq_follow? hkeys hpath] at value
    obtain ⟨j, hj, hpresent⟩ := Option.bind_eq_some_iff.mp value
    have hstring : j = .string t := by
      cases j <;> cases hpresent
      rfl
    rw [hj, hstring] at he
    cases hf : p.fallback with
    | none => exact ⟨[], rfl, he⟩
    | some text =>
      exact ⟨[.default text], (List.append_nil _).symm, Expression.value_default_of_string he text⟩
  | missing value fallback =>
    rw [value] at he
    rw [fallback]
    exact ⟨[.default t], (List.append_nil _).symm, Expression.value_default_of_undefined he t⟩

/-- On the way along the path stand objects. -/
theorem Portable.follow?_object (h : Portable (.object fields) p)
    (hkeys : ∀ key ∈ Entries.keys fields, '.' ∉ key) {q rest : List Text}
    (hsegments : segments p.path = q ++ rest) (hq : q ≠ []) (hrest : rest ≠ []) :
    ∃ inner, follow? q (.object fields) = some (.object inner) := by
  have hpath : p.path = Text.join ['.'] q ++ '.' :: Text.join ['.'] rest := by
    have hjoin : Text.join ['.'] (segments p.path) = p.path := Text.join_splitAt '.' p.path
    rw [← hjoin, hsegments, Text.join_append ['.'] hq hrest, List.append_assoc,
      List.singleton_append]
  obtain ⟨inner, hinner⟩ := h.objects _ _ hpath
  have hne : Text.join ['.'] q ≠ [] := by
    intro hnil
    rw [hnil] at hinner
    cases hinner
  have hdots : ∀ name ∈ q, '.' ∉ name := by
    intro name hname
    apply Json.dot_notMem_of_mem_segments (p := p.path)
    rw [hsegments]
    exact List.mem_append_left _ hname
  rw [Json.resolve?_eq_follow? hkeys hne, segments, Text.splitAt_join hq hdots] at hinner
  obtain ⟨j, hj, hpresent⟩ := Option.bind_eq_some_iff.mp hinner
  have hobject : j = .object inner := by
    cases j <;> cases hpresent
    rfl
  exact ⟨inner, hj.trans (congrArg some hobject)⟩

/-- The expression of a portable placeholder can be read, and its value is what is shown. -/
theorem Portable.exists_filterings (h : Portable (.object fields) p)
    (hkeys : ∀ key ∈ Entries.keys fields, '.' ∉ key) :
    ∃ first more, ∃ fs : List Filtering,
      (∀ name ∈ first :: more, isIdentifier name = true) ∧ first ∉ Expression.reservedWords ∧
      expression p =
        "\x7b\x7b".toList ++ (' ' :: chainText (first :: more) fs ++ " \x7d\x7d".toList) ∧
      (fs.foldl Filtering.around (.ofPath (.name first) more)).value (.object fields) =
        .ok (.string (shownText (.object fields) p)) := by
  obtain ⟨first, more, hsegments⟩ := List.exists_cons_of_ne_nil (Json.segments_ne_nil p.path)
  obtain ⟨hword, hfunction⟩ := h.first first (by rw [hsegments]; rfl)
  obtain ⟨t, hstarts, -⟩ := h.starts
  have hobjects : ∀ q rest, first :: more = q ++ rest → q ≠ [] → rest ≠ [] →
      ∃ inner, follow? q (.object fields) = some (.object inner) := by
    intro q rest heq hq hrest
    exact h.follow?_object hkeys (hsegments.trans heq) hq hrest
  have hvalue := Expression.value_ofPath hfunction more hobjects
  rw [← hsegments] at hvalue
  obtain ⟨fs, htext, hfs⟩ := exists_filterings_fallback hkeys h.path_ne_nil hstarts hvalue
  obtain ⟨gs, htext', hgs⟩ := exists_filterings_calls h.calls
  refine ⟨first, more, fs ++ gs, ?_, hword, ?_, ?_⟩
  · rw [← hsegments]
    exact h.names
  · have hjoin : Text.join ['.'] (first :: more) = p.path := by
      rw [← hsegments]
      exact Text.join_splitAt '.' p.path
    rw [expression, chainText, hjoin, List.flatMap_append, ← htext, ← htext']
    simp only [List.append_assoc, List.cons_append]
    rfl
  · rw [List.foldl_append, hstarts.shownText_eq hkeys h.path_ne_nil]
    exact hgs hfs

theorem Portable.notMem_path {metadata : Json} (h : Portable metadata p) : '<' ∉ p.path := by
  intro hmem
  have hjoin : Text.join ['.'] (segments p.path) = p.path := Text.join_splitAt '.' p.path
  rw [← hjoin] at hmem
  rcases Text.mem_join hmem with hdot | ⟨name, hname, hmem⟩
  · exact absurd hdot (by decide)
  · exact absurd (isNamePart_of_mem (h.names name hname) hmem) (by decide)

/-- The expression of a portable placeholder has no part of an opener in it. -/
theorem Portable.notMem_expression {metadata : Json} (h : Portable metadata p) :
    '<' ∉ expression p := by
  have hcalls : '<' ∉ p.calls.flatMap fun call => filter call.name (call.args.map argument) := by
    intro hmem
    obtain ⟨call, hcall, hmem⟩ := List.mem_flatMap.mp hmem
    obtain ⟨hname, hargs⟩ := h.calls call hcall
    have key : ∀ name ∈ Entries.keys Transform.builtIns, '<' ∉ filter name [] := by decide
    rw [hargs] at hmem
    exact key call.name hname hmem
  have hliteral : ∀ t ∈ p.fallback, '<' ∉ filter "default".toList [Json.literal t] := by
    intro t ht
    have hnot : '<' ∉ Json.literal t := Json.notMem_literal (by decide) rfl rfl (h.fallback t ht)
    simp [filter, Text.join, hnot]
  rw [expression]
  simp only [List.mem_append, not_or]
  refine ⟨⟨⟨⟨by decide, h.notMem_path⟩, ?_⟩, hcalls⟩, by decide⟩
  cases hf : p.fallback with
  | none => exact List.not_mem_nil
  | some t => exact hliteral t hf

/-- In a page, the expression of a portable placeholder shows the text of the placeholder. -/
theorem Shows.placeholder {after t : Text} (hafter : Shows (.object fields) after t)
    (h : Portable (.object fields) p) (hkeys : ∀ key ∈ Entries.keys fields, '.' ∉ key) {gap : Text}
    (hgap : '\x7b' ∉ gap) :
    Shows (.object fields) (gap ++ Jinja.expression p ++ after)
      (gap ++ shownText (.object fields) p ++ t) := by
  obtain ⟨first, more, fs, hnames, hword, hexpression, hvalue⟩ := h.exists_filterings hkeys
  have hshows := hafter.expression (inert_concat_of_notMem hgap) rfl (body_chain hnames fs after)
    (Expression.ofLexemes_chain hword more fs) hvalue
  rw [hexpression]
  simp only [List.append_assoc, List.cons_append] at hshows ⊢
  exact hshows

end

/-! ## Whole templates -/

section

variable {source : Text} {fields : Entries Json}

/-- The page between the gaps of a template shows the texts of its tokens. -/
theorem shows_spliceFrom {tokens : List Token} {e : Nat}
    (hkeys : ∀ key ∈ Entries.keys fields, '.' ∉ key)
    (hgaps : '\x7b' ∉ Template.spliceFrom source e (tokens.map fun token => (token, [])))
    (h : ∀ token ∈ tokens, Portable (.object fields) token.toPlaceholder) :
    Shows (.object fields)
      (Template.spliceFrom source e
        (tokens.map fun token => (token, expression token.toPlaceholder)))
      (Template.spliceFrom source e
        (tokens.map fun token => (token, shownText (.object fields) token.toPlaceholder))) := by
  induction tokens generalizing e with
  | nil => exact shows_text _ hgaps
  | cons token more ih =>
    simp only [List.map_cons, Template.spliceFrom, List.append_nil, List.mem_append, not_or]
      at hgaps ⊢
    obtain ⟨hgap, hmore⟩ := hgaps
    have hafter := ih hmore fun other hother => h other (List.mem_cons_of_mem _ hother)
    exact hafter.placeholder (h token List.mem_cons_self) hkeys hgap

end

end Jinja

/-! ## Both renderings -/

namespace Template

/-- The text of a template around its tokens. -/
def literalText (template : Template) : Text := template.splice (template.tokens.map fun _ => [])

/-- A template that means the same to an engine and, when it is converted, to Jinja. -/
structure Portable (template : Template) (fields : Entries Json) : Prop where
  tag : '<' ∉ template.literalText
  brace : '\x7b' ∉ template.literalText
  lineFeed : template.source.getLast? ≠ some '\n'
  carriageReturn : template.source.getLast? ≠ some '\r'
  keys : ∀ key ∈ Entries.keys fields, '.' ∉ key
  tokens : ∀ token ∈ template.tokens, Jinja.Portable (.object fields) token.toPlaceholder

/-- Where neither the gaps nor the values have a part of an opener, filling in is splicing. -/
theorem filled_map_eq {source : Text} {f : Token → Text}
    (hliteral : '<' ∉ (parse {} source).literalText)
    (hf : ∀ token ∈ (parse {} source).tokens, '<' ∉ f token) :
    (parse {} source).filled ((parse {} source).tokens.map f) =
      (parse {} source).splice ((parse {} source).tokens.map f) := by
  apply filled_eq_splice_of_unbordered (by decide)
  · intro token h
    exact opener_prefix_of_mem_scanFrom (by decide) h
  · exact List.length_map _
  · intro hinfix
    have hmem : '<' ∈ (parse {} source).splice ((parse {} source).tokens.map f) :=
      hinfix.subset (by decide)
    rw [splice_map] at hmem
    rw [literalText, splice_map] at hliteral
    rcases mem_spliceFrom hmem with h | ⟨token, htoken, h⟩
    · exact hliteral h
    · exact hf token htoken h

end Template

namespace Jinja

/-- **An engine and Jinja agree.** A portable template is rendered by an engine with the usual
options, and the page that it is converted to is rendered by Jinja, to the same text. -/
theorem render_eq_render_ofTemplate {σ : Type} (source : Text) (fields : Entries Json) (memory : σ)
    (h : (Template.parse {} source).Portable fields) :
    ∃ t, (({} : Engine σ).render (.parse {} source) (.object fields) memory).result = .ok t ∧
      render (ofTemplate (.parse {} source)) (.object fields) = .ok t := by
  let shown := fun token : Token => shownText (.object fields) token.toPlaceholder
  refine ⟨(Template.parse {} source).splice ((Template.parse {} source).tokens.map shown), ?_, ?_⟩
  · have hvalues : (({} : Engine σ).values (.object fields) (Template.parse {} source).tokens []
        memory).result = .ok ((Template.parse {} source).tokens.map shown) := by
      apply Engine.result_values_of_forall (Engine.isPure_standard {} none)
      intro token htoken memory
      exact (h.tokens token htoken).result_value h.keys rfl memory
    have hfilled := Template.filled_map_eq (f := shown) h.tag
      fun token htoken => (h.tokens token htoken).notMem_shownText h.keys
    rw [Engine.render_eq, Run.mapOk, hvalues, ← hfilled]
    rfl
  · have hpage := Template.filled_map_eq (f := fun token => expression token.toPlaceholder) h.tag
      fun token htoken => (h.tokens token htoken).notMem_expression
    have hbrace := h.brace
    rw [Template.literalText, Template.splice_map] at hbrace
    have hshows := shows_spliceFrom h.keys hbrace h.tokens
    rw [ofTemplate, Template.map_eq, hpage, Template.splice_map, Template.splice_map]
    -- the page ends with an expression or as the source does, so no line break is dropped
    have hlast : ∀ c, c ≠ '\x7d' → (Template.parse {} source).source.getLast? ≠ some c →
        (Template.spliceFrom (Template.parse {} source).source 0
          ((Template.parse {} source).tokens.map fun token =>
            (token, expression token.toPlaceholder))).getLast? ≠ some c := by
      intro c hc hsource hlast
      rcases getLast?_spliceFrom (fun token _ => getLast?_expression token.toPlaceholder) hlast
        with h | h
      · exact hc h
      · exact hsource h
    exact hshows.render (hlast _ (by decide) h.lineFeed) (hlast _ (by decide) h.carriageReturn)

/-- A value that is found and one that is missed, with a fallback text in its place. -/
theorem render_ofTemplate_friend :
    let source := "Hi <<@user:name->trim->capitalize@>>, <<@user:nick->upper@>>[(friend)]!".toList
    let fields := [("user".toList, Json.object [("name".toList, .string " jOHN ".toList)])]
    (Template.parse {} source).Portable fields ∧
      (({} : Engine Unit).render (.parse {} source) (.object fields) ()).result =
        .ok "Hi John, FRIEND!".toList ∧
      render (ofTemplate (.parse {} source)) (.object fields) = .ok "Hi John, FRIEND!".toList := by
  intro source fields
  have hobjects : ∀ name, '.' ∉ name → ∀ q rest, "user".toList ++ '.' :: name = q ++ '.' :: rest →
      ∃ inner, (Json.object fields).resolve? q = some (.object inner) := by
    intro name hname q rest hpath
    obtain ⟨rfl, -⟩ := (List.append_cons_inj_of_notMem (by decide) hname).mp hpath
    exact ⟨_, rfl⟩
  have htokens : (Template.parse {} source).tokens.map Token.toPlaceholder =
      [⟨some "user".toList, "name".toList, [⟨"trim".toList, []⟩, ⟨"capitalize".toList, []⟩], none⟩,
        ⟨some "user".toList, "nick".toList, [⟨"upper".toList, []⟩], some "friend".toList⟩] := by
    decide +kernel
  have hliteral : '<' ∉ (Template.parse {} source).literalText ∧
      '\x7b' ∉ (Template.parse {} source).literalText := by decide +kernel
  have hportable : (Template.parse {} source).Portable fields := by
    refine ⟨hliteral.1, hliteral.2, by decide, by decide, by decide, ?_⟩
    intro token htoken
    have hmem := (congrArg (token.toPlaceholder ∈ ·) htokens).mp (List.mem_map_of_mem htoken)
    simp only [List.mem_cons, List.not_mem_nil, or_false] at hmem
    rcases hmem with hp | hp
    · rw [hp]
      exact ⟨by decide, by decide, by decide, hobjects _ (by decide),
        ⟨" jOHN ".toList, .found rfl, by decide⟩, by decide⟩
    · rw [hp]
      exact ⟨by decide, by decide, by decide, hobjects _ (by decide),
        ⟨"friend".toList, .missing rfl rfl, by decide⟩, by decide⟩
  have hengine : (({} : Engine Unit).render (.parse {} source) (.object fields) ()).result =
      .ok "Hi John, FRIEND!".toList := by decide +kernel
  obtain ⟨t, ht, hpage⟩ := render_eq_render_ofTemplate source fields () hportable
  obtain rfl := Except.ok.inj (ht.symm.trans hengine)
  exact ⟨hportable, hengine, hpage⟩

/-- Jinja also drops a carriage return without a line feed, and the engine does not. -/
theorem render_carriageReturn :
    let template := Template.parse {} "a\r".toList
    template.tokens = [] ∧ '<' ∉ template.literalText ∧ '\x7b' ∉ template.literalText ∧
      '\x7d' ∉ template.literalText ∧ template.source.getLast? ≠ some '\n' ∧
      ¬ ∃ t, (({} : Engine Unit).render template (.object []) ()).result = .ok t ∧
        render (ofTemplate template) (.object []) = .ok t := by
  intro template
  have hengine : (({} : Engine Unit).render template (.object []) ()).result =
      .ok "a\r".toList := by decide +kernel
  have hpage : render (ofTemplate template) (.object []) = .ok "a".toList := by decide +kernel
  have hliteral : template.literalText = "a\r".toList := by decide +kernel
  rw [hliteral]
  refine ⟨by decide +kernel, by decide, by decide, by decide, by decide, ?_⟩
  rintro ⟨t, ht, ht'⟩
  obtain rfl := Except.ok.inj (ht.symm.trans hengine)
  exact absurd (Except.ok.inj (ht'.symm.trans hpage)) (by decide)

end Jinja

end Stencil
