import Stencil.Proofs.Engine.Values
import Stencil.Proofs.Scan.Layout

/-!
# Splicing at the offsets

`Template.splice` puts values between the gaps of a template, read off at the offsets of its tokens.
Filling works by searching and never looks at an offset, but gives the same text as long as the
spliced text holds no opener: then the first place where a source text stands is the place of its
token.

* `spliceFrom_zip`: splicing puts the values between the gaps, `Template.interleave`.
* `fill_eq_spliceFrom` is the run over the tokens, with what is done already in front.
* `filled_eq_splice` is the statement for whole templates, for replacements and for renderings.
-/

namespace Stencil

open Text

/-! ## Splicing -/

/-- The source from byte `e` on, with values in the places that the offsets of the tokens give. -/
def Template.spliceFrom (source : Text) : Nat → List (Token × Text) → Text
  | e, [] => skip e source
  | e, (token, value) :: more =>
    between e token.start source ++ value ++ spliceFrom source token.stop more

/-- The gaps of a template with values between them. -/
def Template.splice (template : Template) (values : List Text) : Text :=
  spliceFrom template.source 0 (template.tokens.zip values)

section

variable {front gap after : Text} {e : Nat} {token : Token}

theorem between_gap (he : e = size front) (hstart : token.start = e + size gap) :
    between e token.start (front ++ (gap ++ token.raw ++ after)) = gap := by
  have h := between_append front gap (token.raw ++ after) he (he ▸ hstart)
  simpa only [List.append_assoc] using h

theorem spliceFrom_cons (value : Text) (places : List (Token × Text)) (he : e = size front)
    (hstart : token.start = e + size gap) :
    Template.spliceFrom (front ++ (gap ++ token.raw ++ after)) e ((token, value) :: places) =
      gap ++ value ++
        Template.spliceFrom (front ++ (gap ++ token.raw ++ after)) token.stop places := by
  rw [Template.spliceFrom, between_gap he hstart]

end

section

variable {source : Text} {e : Nat} {tokens : List Token} {f : Token → Text}

theorem Template.splice_map (template : Template) (f : Token → Text) :
    template.splice (template.tokens.map f) =
      spliceFrom template.source 0 (template.tokens.map fun token => (token, f token)) := by
  rw [splice, ← List.map_prod_left_eq_zip]

/-- A character of a spliced text is in a gap or in a value. -/
theorem mem_spliceFrom {c : Char}
    (h : c ∈ Template.spliceFrom source e (tokens.map fun token => (token, f token))) :
    c ∈ Template.spliceFrom source e (tokens.map fun token => (token, [])) ∨
      ∃ token ∈ tokens, c ∈ f token := by
  induction tokens generalizing e with
  | nil => exact Or.inl h
  | cons token more ih =>
    simp only [List.map_cons, Template.spliceFrom, List.append_nil, List.mem_append] at h ⊢
    rcases h with (h | h) | h
    · exact Or.inl (Or.inl h)
    · exact Or.inr ⟨token, List.mem_cons_self, h⟩
    · rcases ih h with h | ⟨other, hother, h⟩
      · exact Or.inl (Or.inr h)
      · exact Or.inr ⟨other, List.mem_cons_of_mem _ hother, h⟩

/-- A spliced text ends as one of the values does, or as the source. -/
theorem getLast?_spliceFrom {d c : Char} (hf : ∀ token ∈ tokens, (f token).getLast? = some d)
    (h : (Template.spliceFrom source e (tokens.map fun token => (token, f token))).getLast? =
      some c) : c = d ∨ source.getLast? = some c := by
  induction tokens generalizing e with
  | nil =>
    obtain ⟨front, hfront⟩ := skip_suffix e source
    have hlast : (skip e source).getLast? = some c := h
    right
    rw [← hfront, List.getLast?_append, hlast, Option.some_or]
  | cons token more ih =>
    have hmore : ∀ token ∈ more, (f token).getLast? = some d :=
      fun other hother => hf other (List.mem_cons_of_mem _ hother)
    rw [List.map_cons, Template.spliceFrom, List.getLast?_append] at h
    rcases Option.or_eq_some_iff.mp h with h | ⟨-, h⟩
    · exact ih hmore h
    · rw [List.getLast?_append, hf token List.mem_cons_self, Option.some_or] at h
      exact Or.inl (Option.some.inj h).symm

end

/-! ## Gaps -/

/-- The texts in front of the tokens, the first one from byte `e` on. -/
def Template.gapsFrom (source : Text) : Nat → List Token → List Text
  | _, [] => []
  | e, token :: more => between e token.start source :: gapsFrom source token.stop more

/-- The text behind the last token. -/
def Template.restFrom (source : Text) : Nat → List Token → Text
  | e, [] => skip e source
  | _, token :: more => restFrom source token.stop more

/-- Gaps, each with its value behind it, and the rest at the end. -/
def Template.interleave (gaps values : List Text) (rest : Text) : Text :=
  (List.zipWith (· ++ ·) gaps values).flatten ++ rest

@[simp] theorem interleave_nil (values : List Text) (rest : Text) :
    Template.interleave [] values rest = rest := rfl

@[simp] theorem interleave_cons (gap value : Text) (gaps values : List Text) (rest : Text) :
    Template.interleave (gap :: gaps) (value :: values) rest =
      gap ++ value ++ Template.interleave gaps values rest := by
  simp [Template.interleave]

theorem interleave_append (gaps values : List Text) (s t : Text) :
    Template.interleave gaps values (s ++ t) = Template.interleave gaps values s ++ t :=
  (List.append_assoc ..).symm

@[simp] theorem length_gapsFrom (source : Text) (e : Nat) (tokens : List Token) :
    (Template.gapsFrom source e tokens).length = tokens.length := by
  induction tokens generalizing e with
  | nil => rfl
  | cons token more ih => rw [Template.gapsFrom, List.length_cons, ih, List.length_cons]

theorem gapsFrom_cons {front gap after : Text} {e : Nat} {token : Token} (more : List Token)
    (he : e = size front) (hstart : token.start = e + size gap) :
    Template.gapsFrom (front ++ (gap ++ token.raw ++ after)) e (token :: more) =
      gap :: Template.gapsFrom (front ++ (gap ++ token.raw ++ after)) token.stop more := by
  rw [Template.gapsFrom, between_gap he hstart]

theorem spliceFrom_zip (source : Text) (e : Nat) {tokens : List Token} {values : List Text}
    (hlen : values.length = tokens.length) :
    Template.spliceFrom source e (tokens.zip values) =
      Template.interleave (Template.gapsFrom source e tokens) values
        (Template.restFrom source e tokens) := by
  induction tokens generalizing e values with
  | nil => rfl
  | cons token more ih =>
    obtain ⟨value, values, rfl⟩ := List.exists_cons_of_length_eq_add_one hlen
    rw [List.zip_cons_cons, Template.spliceFrom, ih _ (Nat.succ.inj hlen), Template.gapsFrom,
      interleave_cons, Template.restFrom]

/-! ## Filling is splicing -/

variable {d : Delimiters}

/-- Filling in the values goes on behind what is done already, `done`, if the text that arises has
no opener up to the last value. -/
theorem fill_eq_spliceFrom (hm : Unbordered d.opener) {e : Nat} {t : Text} {tokens : List Token}
    (layout : Layout e t tokens) (hraw : ∀ token ∈ tokens, d.opener <+: token.raw)
    {values : List Text} (hlen : values.length = tokens.length) (front done : Text)
    (he : e = size front)
    (hno : ¬ d.opener <:+:
      done ++ Template.interleave (Template.gapsFrom (front ++ t) e tokens) values []) :
    Template.fill (tokens.zip values) (done ++ t) =
      done ++ Template.spliceFrom (front ++ t) e (tokens.zip values) := by
  induction layout generalizing values front done with
  | nil =>
    rw [List.zip_nil_left, Template.fill_nil, Template.spliceFrom, he, skip_size_append]
  | @cons e gap after token more start stop tail ih =>
    obtain ⟨value, rest, rfl⟩ := List.exists_cons_of_length_eq_add_one hlen
    rw [gapsFrom_cons more he start, interleave_cons] at hno
    rw [List.zip_cons_cons, spliceFrom_cons value _ he start]
    -- the opener would have to start in `done` or in the gap, and the result keeps both
    have hgap : ¬ d.opener <:+: done ++ gap := by
      intro h
      apply hno
      refine h.trans (List.IsPrefix.isInfix ?_)
      rw [List.append_assoc gap, ← List.append_assoc]
      exact List.prefix_append _ _
    have hfirst := isFirst_of_prefix hm hgap (hraw token List.mem_cons_self) after
    have hsub : Template.substitute token.raw value (done ++ (gap ++ token.raw ++ after)) =
        done ++ gap ++ value ++ after := by
      rw [Template.substitute, replaceFirst?, ← List.append_assoc, ← List.append_assoc,
        cut?_eq_some_iff.mpr hfirst]
      rfl
    rw [Template.fill_cons, hsub]
    have hfront : front ++ (gap ++ token.raw ++ after) = (front ++ gap ++ token.raw) ++ after := by
      simp only [List.append_assoc]
    have hstop : token.stop = size (front ++ gap ++ token.raw) := by
      rw [stop, start, he, size_append, size_append]
    rw [hfront] at hno ⊢
    rw [← List.append_assoc, ← List.append_assoc] at hno ⊢
    have hmore : ∀ token ∈ more, d.opener <+: token.raw := by
      intro token h
      exact hraw token (List.mem_cons_of_mem _ h)
    exact ih hmore (Nat.succ.inj hlen) _ _ hstop hno

theorem filled_eq_splice_of_unbordered (hm : Unbordered d.opener) {source : Text}
    (hraw : ∀ token ∈ scan d source, d.opener <+: token.raw) {values : List Text}
    (hlen : values.length = (Template.parse d source).tokens.length)
    (hno : ¬ d.opener <:+: (Template.parse d source).splice values) :
    (Template.parse d source).filled values = (Template.parse d source).splice values := by
  apply fill_eq_spliceFrom hm (layout_scan d source) hraw hlen [] [] rfl
  intro h
  apply hno
  rw [Template.splice, spliceFrom_zip _ _ hlen]
  have happend := interleave_append (Template.gapsFrom source 0 (scan d source)) values []
  exact h.trans (List.IsPrefix.isInfix ⟨_, (happend _).symm⟩)

/-- Filling in values by searching for source texts refines splicing at the offsets. Take delimiters
whose opener has no border and a template whose source texts all begin with the opener, as they do
with the usual delimiters. If the spliced text has no opener in it, then filling in the values gives
that text. So does a replacement, which is asked once for each token, in order, with the answers
that it gives, and so does a rendering that succeeds, with the values of its tokens. -/
theorem filled_eq_splice :
    (Unbordered ({} : Delimiters).opener ∧
      ∀ source, ∀ token ∈ scan {} source, ({} : Delimiters).opener <+: token.raw) ∧
    ∀ (d : Delimiters) (source : Text), Unbordered d.opener →
      (∀ token ∈ scan d source, d.opener <+: token.raw) →
      let template := Template.parse d source
      (∀ values : List Text, values.length = template.tokens.length →
        ¬ d.opener <:+: template.splice values →
        template.filled values = template.splice values) ∧
      (∀ (σ : Type) (replace : Token → σ → Text × σ) (s : σ),
        let answers := Template.answers replace template.tokens s
        (template.replaceEach (Template.noted replace) (s, [])).2 =
          (answers.2, template.tokens.zip answers.1) ∧
        answers.1.length = template.tokens.length ∧
        (¬ d.opener <:+: template.splice answers.1 →
          template.replaceEach replace s = (template.splice answers.1, answers.2))) ∧
      ∀ (σ : Type) (e : Engine σ) (metadata : Json) (memory : σ) (t : Text),
        (e.render template metadata memory).result = .ok t →
        ∃ values, (e.values metadata template.tokens [] memory).result = .ok values ∧
          values.length = template.tokens.length ∧
          (¬ d.opener <:+: template.splice values → t = template.splice values) := by
  refine ⟨⟨by decide, ?_⟩, ?_⟩
  · intro source token h
    exact opener_prefix_of_mem_scanFrom (by decide) h
  intro d source hm hraw
  refine ⟨?_, ?_, ?_⟩
  · intro values hlen hno
    exact filled_eq_splice_of_unbordered hm hraw hlen hno
  · intro σ replace s
    refine ⟨?_, Template.length_answers replace _ s, ?_⟩
    · rw [Template.replaceEach_eq, Template.answers_noted, List.nil_append]
    · intro hno
      rw [Template.replaceEach_eq]
      rw [filled_eq_splice_of_unbordered hm hraw (Template.length_answers replace _ s) hno]
  · intro σ e metadata memory t h
    obtain ⟨values, hv, hlen, rfl⟩ := e.exists_values metadata h
    refine ⟨values, hv, hlen, ?_⟩
    intro hno
    exact filled_eq_splice_of_unbordered hm hraw hlen hno

/-- One source text is a prefix of the other, and a value closes what was never opened. -/
theorem filled_overlapping_raws :
    let template := Template.parse {} "<<@a@>> <<@a@>>[(x)]".toList
    ¬ ({} : Delimiters).opener <:+: template.splice ["@>>".toList, "2".toList] ∧
      template.filled ["@>>".toList, "2".toList] = "@>> 2".toList := by
  intro template
  have hno : ¬ ({} : Delimiters).opener <:+: template.splice ["@>>".toList, "2".toList] := by
    decide +kernel
  obtain ⟨⟨hm, hraw⟩, h⟩ := filled_eq_splice
  have hfilled := (h {} template.source hm (hraw _)).1 ["@>>".toList, "2".toList]
    (by decide +kernel) hno
  refine ⟨hno, hfilled.trans ?_⟩
  decide +kernel

end Stencil
