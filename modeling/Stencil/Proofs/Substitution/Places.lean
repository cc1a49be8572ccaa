import Stencil.Proofs.Engine.Values
import Stencil.Proofs.Scan.Layout
import Mathlib.Algebra.Ring.Int.Defs

/-!
# Every value finds a place

Filling in values searches for source texts in a text that the values have changed, so a value that
looks like a placeholder may be hit in place of the real one. It is hit at or before the real place,
however, and so the rest of the template behind it stays what it was. Hence every search succeeds,
whatever the values and the delimiters are.

* `exists_replaceFirst?` is one replacement: what follows the real place stays at the end.
* `Layout.ends_working` is the run: before each replacement the text ends with the source from that
  token on.
* `Template.complete_of_parse` says that nothing is lost when values are filled in, and
  `Template.complete_replacements` says so of replacements and renderings.
-/

namespace Stencil

open Text

/-! ## One replacement -/

theorem size_of_replaceFirst? {raw value t t' : Text} (h : replaceFirst? raw value t = some t') :
    size t' + size raw = size t + size value := by
  obtain ⟨⟨before, after⟩, hc, rfl⟩ := Option.map_eq_some_iff.mp h
  rw [cut?_eq_some hc]
  simp only [size_append]
  omega

/-- A replacement hits at or before any place where the source text stands, so it keeps what follows
that place. -/
theorem exists_replaceFirst? (front raw after value : Text) :
    ∃ front', replaceFirst? raw value (front ++ raw ++ after) = some (front' ++ after) := by
  have hin : raw <:+: front ++ raw ++ after := ⟨front, after, rfl⟩
  obtain ⟨b, a, hfirst⟩ := exists_isFirst hin
  have hle := hfirst.least front after rfl
  have hlen := congrArg List.length hfirst.parts
  simp only [List.length_append] at hlen
  have hsuf : after <:+ a := by
    have ha : a <:+ front ++ raw ++ after := ⟨b ++ raw, hfirst.parts.symm⟩
    exact List.suffix_of_suffix_length_le (List.suffix_append _ _) ha (by omega)
  obtain ⟨x, rfl⟩ := hsuf
  refine ⟨b ++ value ++ x, ?_⟩
  rw [replaceFirst?, cut?_eq_some_iff.mpr hfirst]
  simp only [Option.map_some, List.append_assoc]

/-! ## Filling a template -/

namespace Template

/-- The offset behind the last token. -/
def lastStop (template : Template) : Nat := (template.tokens.getLast?.map Token.stop).getD 0

/-- Every value finds a place, and what is not yet reached is untouched. -/
structure Complete (template : Template) (values : List Text) : Prop where
  /-- The search for each token succeeds. -/
  found : ∀ k (h : k < template.tokens.length), ∃ value, values[k]? = some value ∧
    replaceFirst? template.tokens[k].raw value (template.working values k) =
      some (template.working values (k + 1))
  /-- Before a token is replaced, the text ends with the source from that token on. -/
  untouched : ∀ k (h : k < template.tokens.length),
    skip template.tokens[k].start template.source <:+ template.working values k
  /-- The result ends with what follows the last token. -/
  ending : skip template.lastStop template.source <:+ template.filled values
  /-- The result has the bytes of the values for those of the tokens. -/
  size : (size (template.filled values) : Int) = size template.source +
    ((template.tokens.zip values).map fun place =>
      (Text.size place.2 : Int) - Text.size place.1.raw).sum

end Template

/-- Before each replacement the text ends with the source text of the token and what follows it in
the source. `done` stands for what the earlier replacements have left in front. -/
theorem Layout.ends_working {e : Nat} {t : Text} {tokens : List Token} (layout : Layout e t tokens)
    {values : List Text} (hlen : values.length = tokens.length) (front done : Text)
    (he : e = size front) (k : Nat) (hk : k < tokens.length) :
    ∃ after front', skip tokens[k].start (front ++ t) = tokens[k].raw ++ after ∧
      skip tokens[k].stop (front ++ t) = after ∧
      Template.fill ((tokens.zip values).take k) (done ++ t) =
        front' ++ tokens[k].raw ++ after := by
  induction layout generalizing values front done k with
  | nil => exact absurd hk (Nat.not_lt_zero k)
  | @cons e gap after token more start stop tail ih =>
    obtain ⟨value, rest, rfl⟩ := List.exists_cons_of_length_eq_add_one hlen
    have hstart : token.start = size (front ++ gap) := by rw [start, he, size_append]
    have hstop : token.stop = size (front ++ gap ++ token.raw) := by
      rw [stop, hstart, size_append _ token.raw]
    have htext : front ++ (gap ++ token.raw ++ after) = front ++ gap ++ token.raw ++ after := by
      simp only [List.append_assoc]
    cases k with
    | zero =>
      refine ⟨after, done ++ gap, ?_, ?_, ?_⟩
      · rw [List.getElem_cons_zero, hstart, htext, List.append_assoc]
        exact skip_size_append _ _
      · rw [List.getElem_cons_zero, hstop, htext]
        exact skip_size_append _ _
      · rw [List.take_zero, Template.fill_nil, List.getElem_cons_zero]
        simp only [List.append_assoc]
    | succ k =>
      obtain ⟨front', hsub⟩ := exists_replaceFirst? (done ++ gap) token.raw after value
      obtain ⟨after', front'', hskip, hskip', hfill⟩ :=
        ih (Nat.succ.inj hlen) _ front' hstop k (Nat.lt_of_succ_lt_succ hk)
      refine ⟨after', front'', ?_, ?_, ?_⟩
      · rw [List.getElem_cons_succ, htext, hskip]
      · rw [List.getElem_cons_succ, htext, hskip']
      · rw [List.zip_cons_cons, List.take_succ_cons, Template.fill_cons, Template.substitute,
          ← List.append_assoc, ← List.append_assoc, hsub, Option.getD_some]
        exact hfill

namespace Template

theorem getElem?_places {template : Template} {values : List Text} {k : Nat}
    (hk : k < template.tokens.length) {value : Text} (hv : values[k]? = some value) :
    (template.tokens.zip values)[k]? = some (template.tokens[k], value) := by
  rw [List.getElem?_zip_eq_some]
  exact ⟨List.getElem?_eq_getElem hk, hv⟩

theorem working_succ {template : Template} {values : List Text} {k : Nat}
    (hk : k < template.tokens.length) {value : Text} (hv : values[k]? = some value) :
    template.working values (k + 1) =
      substitute template.tokens[k].raw value (template.working values k) := by
  rw [working, working, List.take_add_one, getElem?_places hk hv, fill, List.foldl_append]
  rfl

/-- One step of filling a parsed template: the search succeeds, and both before and after it the
text ends with the part of the source that is not yet reached. -/
theorem working_step (d : Delimiters) (source : Text) {values : List Text}
    (hlen : values.length = (parse d source).tokens.length) (k : Nat)
    (hk : k < (parse d source).tokens.length) :
    ∃ value, values[k]? = some value ∧
      replaceFirst? (parse d source).tokens[k].raw value ((parse d source).working values k) =
        some ((parse d source).working values (k + 1)) ∧
      skip (parse d source).tokens[k].start source <:+ (parse d source).working values k ∧
      skip (parse d source).tokens[k].stop source <:+ (parse d source).working values (k + 1) := by
  obtain ⟨after, front, hstart, hstop, hw⟩ :=
    (layout_scan d source).ends_working hlen [] [] rfl k hk
  have hv : values[k]? = some values[k] := List.getElem?_eq_getElem (hlen ▸ hk)
  obtain ⟨front', hr⟩ := exists_replaceFirst? front (parse d source).tokens[k].raw after values[k]
  have hworking : (parse d source).working values k =
      front ++ (parse d source).tokens[k].raw ++ after := hw
  have hnext : (parse d source).working values (k + 1) = front' ++ after := by
    rw [working_succ hk hv, hworking, substitute, hr, Option.getD_some]
  refine ⟨values[k], hv, ?_, ?_, ?_⟩
  · rw [hworking, hr, hnext]
  · rw [hworking, List.append_assoc]
    exact ⟨front, congrArg (front ++ ·) hstart⟩
  · rw [hnext]
    exact ⟨front', congrArg (front' ++ ·) hstop⟩

theorem size_working {template : Template} {values : List Text}
    (hfound : ∀ k (h : k < template.tokens.length), ∃ value, values[k]? = some value ∧
      replaceFirst? template.tokens[k].raw value (template.working values k) =
        some (template.working values (k + 1)))
    (k : Nat) (hk : k ≤ template.tokens.length) :
    (size (template.working values k) : Int) = size template.source +
      (((template.tokens.zip values).take k).map fun place =>
        (size place.2 : Int) - size place.1.raw).sum := by
  induction k with
  | zero => simp [working]
  | succ k ih =>
    obtain ⟨value, hv, hr⟩ := hfound k hk
    have hsize := size_of_replaceFirst? hr
    rw [List.take_add_one, getElem?_places hk hv, List.map_append, List.sum_append]
    have hih := ih (Nat.le_of_lt hk)
    simp only [Option.toList_some, List.map_cons, List.map_nil, List.sum_cons, List.sum_nil]
    omega

/-- Whatever the delimiters and the values are, nothing is lost. -/
theorem complete_of_parse (d : Delimiters) (source : Text) {values : List Text}
    (hlen : values.length = (parse d source).tokens.length) :
    (parse d source).Complete values := by
  have hstep := working_step d source hlen
  have hfound : ∀ k (h : k < (parse d source).tokens.length), ∃ value,
      values[k]? = some value ∧
        replaceFirst? (parse d source).tokens[k].raw value ((parse d source).working values k) =
          some ((parse d source).working values (k + 1)) := by
    intro k hk
    obtain ⟨value, hv, hr, -⟩ := hstep k hk
    exact ⟨value, hv, hr⟩
  refine ⟨hfound, ?_, ?_, ?_⟩
  · intro k hk
    obtain ⟨-, -, -, hsuf, -⟩ := hstep k hk
    exact hsuf
  · rw [← working_length, lastStop]
    cases hn : (parse d source).tokens.length with
    | zero =>
      have hnil : (parse d source).tokens.getLast? = none := by
        rw [List.length_eq_zero_iff.mp hn, List.getLast?_nil]
      rw [hnil, Option.map_none, Option.getD_none, skip_zero, working, List.take_zero, fill_nil]
    | succ n =>
      obtain ⟨-, -, -, -, hsuf⟩ := hstep n (by omega)
      have hlast : (parse d source).tokens.getLast? = (parse d source).tokens[n] := by
        rw [List.getLast?_eq_getElem?]
        exact List.getElem?_eq_some_iff.mpr ⟨by omega, by simp only [hn, Nat.add_sub_cancel]⟩
      rw [hlast, Option.map_some, Option.getD_some]
      exact hsuf
  · rw [← working_length, size_working hfound _ le_rfl, List.take_of_length_le]
    simp [hlen]

/-- No replacement is ever lost. For all values the template is filled completely; a replacement of
all tokens goes through the very texts that its answers give, and so does a rendering that succeeds
with the values of its tokens. -/
theorem complete_replacements (d : Delimiters) (source : Text) :
    let template := parse d source
    (∀ values : List Text, values.length = template.tokens.length → template.Complete values) ∧
    (∀ (σ : Type) (replace : Token → σ → Text × σ) (s : σ),
      let values := (answers replace template.tokens s).1
      template.Complete values ∧
        (∀ k, (replaceTokens replace (template.tokens.take k) source s).1 =
          template.working values k) ∧
        (template.replaceEach replace s).1 = template.filled values) ∧
    ∀ (σ : Type) (e : Engine σ) (metadata : Json) (memory : σ) (t : Text),
      (e.render template metadata memory).result = .ok t →
      ∃ values, (e.values metadata template.tokens [] memory).result = .ok values ∧
        template.Complete values ∧
        (∀ k, (e.renderTokens metadata (template.tokens.take k) [] source memory).result =
          .ok (template.working values k)) ∧
        t = template.filled values := by
  refine ⟨?_, ?_, ?_⟩
  · intro values hlen
    exact complete_of_parse d source hlen
  · intro σ replace s
    refine ⟨complete_of_parse d source (length_answers replace _ s), ?_, ?_⟩
    · intro k
      exact replaceTokens_take replace (parse d source) k s
    · rw [replaceEach_eq]
  · intro σ e metadata memory t h
    obtain ⟨values, hv, hlen, ht⟩ := e.exists_values metadata h
    exact ⟨values, hv, complete_of_parse d source hlen, e.renderTokens_take metadata hv, ht⟩

end Template

end Stencil
