import Stencil.Proofs.Engine.Values
import Stencil.Proofs.Scan.Source

/-!
# Equal source texts share a value

Rendering works out one value for each source text. `Engine.freshValues` has no memo: it gives every
token of a list a value of its own. What a rendering does is what `freshValues` does on the first
occurrences of the source texts, `Template.firsts`, and `Template.shared` spreads the values over
all tokens.

* `Engine.values_eq_freshValues` is the run over the tokens, with what is known already in front.
* `Engine.IsPure.result_values_scan` compares with giving every token a value anew, where no
  transform looks at the memory.
* `Engine.render_eq_firsts` says both of renderings.
-/

namespace Stencil

/-! ## First occurrences -/

/-- The tokens whose source text is neither among `seen` nor that of an earlier token. -/
def firstsFrom (seen : List Text) : List Token → List Token
  | [] => []
  | token :: more =>
    if seen.contains token.raw then firstsFrom seen more
    else token :: firstsFrom (seen ++ [token.raw]) more

theorem firstsFrom_of_mem {seen : List Text} {token : Token} (h : token.raw ∈ seen)
    (more : List Token) : firstsFrom seen (token :: more) = firstsFrom seen more := by
  rw [firstsFrom, if_pos (List.contains_iff_mem.mpr h)]

theorem firstsFrom_of_notMem {seen : List Text} {token : Token} (h : token.raw ∉ seen)
    (more : List Token) :
    firstsFrom seen (token :: more) = token :: firstsFrom (seen ++ [token.raw]) more := by
  rw [firstsFrom, if_neg (mt List.contains_iff_mem.mp h)]

/-- The value under the source text of a token, when the tokens `firsts` have the given values. -/
def valueAmong (known : Entries Text) (firsts : List Token) (values : List Text) (token : Token) :
    Text :=
  (Entries.get? token.raw (known ++ (firsts.map Token.raw).zip values)).getD []

theorem valueAmong_of_known {known : Entries Text} {token : Token} {value : Text}
    (h : known.get? token.raw = some value) (firsts : List Token) (values : List Text) :
    valueAmong known firsts values token = value := by
  rw [valueAmong, Entries.get?_append, h, Option.some_or, Option.getD_some]

theorem valueAmong_cons_self {known : Entries Text} {token : Token}
    (h : known.get? token.raw = none) (value : Text) (firsts : List Token) (values : List Text) :
    valueAmong known (token :: firsts) (value :: values) token = value := by
  rw [valueAmong, Entries.get?_append, h, Option.none_or, List.map_cons, List.zip_cons_cons,
    Entries.get?, if_pos rfl, Option.getD_some]

/-- A new value stands at the end of what is known, and in front of the further values. -/
theorem valueAmong_insert {known : Entries Text} {token : Token}
    (h : known.get? token.raw = none) (value : Text) (firsts : List Token) (values : List Text) :
    valueAmong (known.insert token.raw value) firsts values =
      valueAmong known (token :: firsts) (value :: values) := by
  funext other
  rw [valueAmong, valueAmong, Entries.insert_of_notMem (Entries.get?_eq_none_iff.mp h),
    List.append_assoc]
  rfl

namespace Template

/-- The tokens whose source text no earlier token has. -/
def firsts (template : Template) : List Token := firstsFrom [] template.tokens

/-- The values of all tokens, when the first occurrences have the given ones: each token has the
value of the first one with its source text. -/
def shared (template : Template) (values : List Text) : List Text :=
  template.tokens.map (valueAmong [] template.firsts values)

end Template

theorem firstsFrom_append_of_mem {seen : List Text} {tokens : List Token} {token : Token}
    (h : token.raw ∈ tokens.map Token.raw) :
    firstsFrom seen (tokens ++ [token]) = firstsFrom seen tokens := by
  have key : ∀ (tokens : List Token) (seen : List Text),
      token.raw ∈ seen ∨ token.raw ∈ tokens.map Token.raw →
      firstsFrom seen (tokens ++ [token]) = firstsFrom seen tokens := by
    intro tokens
    induction tokens with
    | nil =>
      intro seen h
      rcases h with h | h
      · rw [List.nil_append, firstsFrom_of_mem h]
      · cases h
    | cons first more ih =>
      intro seen h
      rw [List.map_cons, List.mem_cons] at h
      rw [List.cons_append]
      by_cases hseen : first.raw ∈ seen
      · rw [firstsFrom_of_mem hseen, firstsFrom_of_mem hseen]
        apply ih
        rcases h with h | h | h
        · exact Or.inl h
        · exact Or.inl (h ▸ hseen)
        · exact Or.inr h
      · rw [firstsFrom_of_notMem hseen, firstsFrom_of_notMem hseen, ih]
        rw [List.mem_append, List.mem_singleton]
        tauto
  exact key tokens seen (Or.inr h)

/-! ## Values without a memo -/

namespace Run

variable {σ ε α β γ : Type}

theorem mapOk_after (f : α → β) (events : List Event) (run : Run σ (Except ε α)) :
    (run.after events).mapOk f = (run.mapOk f).after events := rfl

theorem mapOk_mapOk (f : α → β) (g : β → γ) (run : Run σ (Except ε α)) :
    (run.mapOk f).mapOk g = run.mapOk (g ∘ f) := by
  cases hr : run.result <;> simp [mapOk, hr, Except.map]

end Run

namespace Engine

variable {σ : Type} (e : Engine σ) (metadata : Json)

/-- The values of tokens, each worked out anew, up to the first failure that ends the rendering. The
events are those of the single values, one after the other. -/
def freshValues : List Token → σ → Run σ (Except Failure (List Text))
  | [], memory => ⟨.ok [], [], memory⟩
  | token :: more, memory =>
    let run := e.value metadata token.toPlaceholder memory
    match run.result with
    | .error failure => ⟨.error failure, run.events, run.memory⟩
    | .ok value => ((freshValues more run.memory).mapOk (value :: ·)).after run.events

/-- Rendering without a memo. -/
def renderAfresh (template : Template) (memory : σ) : Run σ (Except Failure Text) :=
  (e.freshValues metadata template.tokens memory).mapOk template.filled

variable {token : Token} {known : Entries Text} {memory : σ}

theorem values_of_known {value : Text} (h : known.get? token.raw = some value)
    (more : List Token) :
    e.values metadata (token :: more) known memory =
      (e.values metadata more known memory).mapOk (value :: ·) := by
  rw [values, nextValue, h]
  rfl

theorem values_of_ok {value : Text} (h : known.get? token.raw = none)
    (hr : (e.value metadata token.toPlaceholder memory).result = .ok value) (more : List Token) :
    e.values metadata (token :: more) known memory =
      ((e.values metadata more (known.insert token.raw value)
        (e.value metadata token.toPlaceholder memory).memory).mapOk (value :: ·)).after
          (e.value metadata token.toPlaceholder memory).events := by
  simp only [values, nextValue, h, Run.mapOk, hr, Except.map]

theorem values_of_error {failure : Failure} (h : known.get? token.raw = none)
    (hr : (e.value metadata token.toPlaceholder memory).result = .error failure)
    (more : List Token) :
    e.values metadata (token :: more) known memory =
      ⟨.error failure, (e.value metadata token.toPlaceholder memory).events,
        (e.value metadata token.toPlaceholder memory).memory⟩ := by
  simp only [values, nextValue, h, Run.mapOk, hr, Except.map]

theorem freshValues_of_ok {value : Text}
    (hr : (e.value metadata token.toPlaceholder memory).result = .ok value) (more : List Token) :
    e.freshValues metadata (token :: more) memory =
      ((e.freshValues metadata more
        (e.value metadata token.toPlaceholder memory).memory).mapOk (value :: ·)).after
          (e.value metadata token.toPlaceholder memory).events := by
  simp only [freshValues, hr]

theorem freshValues_of_error {failure : Failure}
    (hr : (e.value metadata token.toPlaceholder memory).result = .error failure)
    (more : List Token) :
    e.freshValues metadata (token :: more) memory =
      ⟨.error failure, (e.value metadata token.toPlaceholder memory).events,
        (e.value metadata token.toPlaceholder memory).memory⟩ := by
  simp only [freshValues, hr]

/-- Where the values of some source texts are known, the other values are those of the tokens whose
source text occurs for the first time. -/
theorem values_eq_freshValues (tokens : List Token) (known : Entries Text) (memory : σ) :
    e.values metadata tokens known memory =
      (e.freshValues metadata (firstsFrom (Entries.keys known) tokens) memory).mapOk
        fun values => tokens.map
          (valueAmong known (firstsFrom (Entries.keys known) tokens) values) := by
  induction tokens generalizing known memory with
  | nil => rfl
  | cons token more ih =>
    cases hk : known.get? token.raw with
    | some value =>
      -- a source text that is known is not among the first occurrences
      have hmem : token.raw ∈ Entries.keys known := by
        by_contra hmem
        rw [Entries.get?_eq_none_iff.mpr hmem] at hk
        cases hk
      simp only [firstsFrom_of_mem hmem, e.values_of_known metadata hk, ih, Run.mapOk_mapOk,
        List.map_cons, valueAmong_of_known hk]
      rfl
    | none =>
      have hmem := Entries.get?_eq_none_iff.mp hk
      rw [firstsFrom_of_notMem hmem]
      cases hr : (e.value metadata token.toPlaceholder memory).result with
      | error failure =>
        rw [e.values_of_error metadata hk hr, e.freshValues_of_error metadata hr]
        rfl
      | ok value =>
        have hkeys : Entries.keys (known.insert token.raw value) =
            Entries.keys known ++ [token.raw] := by
          rw [Entries.keys_insert, if_neg hmem]
        rw [e.values_of_ok metadata hk hr, e.freshValues_of_ok metadata hr, ih, hkeys,
          Run.mapOk_after, Run.mapOk_mapOk, Run.mapOk_mapOk]
        congr 2
        funext values
        simp only [Function.comp_apply, List.map_cons, valueAmong_cons_self hk,
          valueAmong_insert hk]

/-! ## Transforms that do not look at the memory -/

/-- The result of every transform depends on its value and its arguments alone. -/
def IsPure (e : Engine σ) : Prop :=
  ∀ name transform, e.registry.find? name = some transform →
    ∀ value args memory memory', (transform value args memory).1 = (transform value args memory').1

variable {e}

theorem IsPure.result_applyCalls (h : e.IsPure) (p : Placeholder) (calls : List Call) (value : Text)
    (memory memory' : σ) :
    (e.applyCalls p calls value memory).result = (e.applyCalls p calls value memory').result := by
  induction calls generalizing value memory memory' with
  | nil => rfl
  | cons call more ih =>
    cases hf : e.registry.find? call.name with
    | none =>
      rw [e.applyCalls_of_none hf, e.applyCalls_of_none hf]
      by_cases hs : e.options.strict = true
      · rw [if_pos hs, if_pos hs]
      · rw [if_neg hs, if_neg hs]
        exact ih value memory memory'
    | some transform =>
      have hpure := h call.name transform hf value call.args memory memory'
      cases ht : transform value call.args memory with
      | mk result after =>
        cases ht' : transform value call.args memory' with
        | mk result' after' =>
          rw [ht, ht'] at hpure
          obtain rfl : result = result' := hpure
          cases result with
          | error reason =>
            rw [e.applyCalls_of_error hf ht, e.applyCalls_of_error hf ht']
          | ok value' =>
            rw [e.applyCalls_of_ok hf ht, e.applyCalls_of_ok hf ht']
            exact ih value' after after'

theorem result_recover_congr {run run' : Run σ (Except Failure Text)}
    (h : run.result = run'.result) : (e.recover run).result = (e.recover run').result := by
  rw [recover, recover, ← h]
  cases hr : run.result with
  | ok value => simp only [← h, hr]
  | error failure =>
    by_cases hs : e.escalates failure = true
    · simp only [hs, if_true, ← h, hr]
    · simp only [hs, Bool.false_eq_true, if_false]

theorem IsPure.result_value (h : e.IsPure) (p : Placeholder) (memory memory' : σ) :
    (e.value metadata p memory).result = (e.value metadata p memory').result := by
  apply result_recover_congr
  rw [evaluate, evaluate]
  cases e.select metadata p with
  | error failure => rfl
  | ok value => exact h.result_applyCalls p p.calls value memory memory'

/-- If source texts decide contents, then a known value is the one that would be worked out anew. -/
theorem IsPure.result_values (h : e.IsPure) {tokens : List Token}
    (hraw : ∀ a ∈ tokens, ∀ b ∈ tokens, a.raw = b.raw → a.toPlaceholder = b.toPlaceholder)
    (known : Entries Text) (memory memory' : σ)
    (hknown : ∀ token ∈ tokens, ∀ value, known.get? token.raw = some value →
      (e.value metadata token.toPlaceholder memory).result = .ok value) :
    (e.values metadata tokens known memory).result =
      (e.freshValues metadata tokens memory').result := by
  induction tokens generalizing known memory memory' with
  | nil => rfl
  | cons token more ih =>
    have hmore : ∀ a ∈ more, ∀ b ∈ more, a.raw = b.raw → a.toPlaceholder = b.toPlaceholder :=
      fun a ha b hb => hraw a (List.mem_cons_of_mem _ ha) b (List.mem_cons_of_mem _ hb)
    have hfresh := h.result_value metadata token.toPlaceholder memory memory'
    cases hk : known.get? token.raw with
    | some value =>
      have hvalue := hknown token List.mem_cons_self value hk
      rw [e.values_of_known metadata hk, e.freshValues_of_ok metadata (hfresh ▸ hvalue)]
      refine congrArg (Except.map (value :: ·)) (ih hmore known memory _ ?_)
      intro a ha
      exact hknown a (List.mem_cons_of_mem _ ha)
    | none =>
      cases hr : (e.value metadata token.toPlaceholder memory).result with
      | error failure =>
        rw [e.values_of_error metadata hk hr, e.freshValues_of_error metadata (hfresh ▸ hr)]
      | ok value =>
        rw [e.values_of_ok metadata hk hr, e.freshValues_of_ok metadata (hfresh ▸ hr)]
        refine congrArg (Except.map (value :: ·)) (ih hmore _ _ _ ?_)
        -- the new value is right for every later token with this source text, by `hraw`
        intro a ha v hv
        rw [h.result_value metadata a.toPlaceholder _ memory]
        by_cases hsame : a.raw = token.raw
        · rw [hsame, Entries.get?_insert_self] at hv
          obtain rfl := Option.some.inj hv
          rw [hraw a (List.mem_cons_of_mem _ ha) token List.mem_cons_self hsame, hr]
        · rw [Entries.get?_insert_of_ne value known hsame] at hv
          exact hknown a (List.mem_cons_of_mem _ ha) v hv

/-- The tokens of one scan are of this kind. -/
theorem IsPure.result_values_scan (h : e.IsPure) (d : Delimiters) (source : Text) (memory : σ) :
    (e.values metadata (scan d source) [] memory).result =
      (e.freshValues metadata (scan d source) memory).result := by
  apply h.result_values metadata ?_ [] memory memory
  · intro token _ value hv
    cases hv
  · intro a ha b hb hab
    exact toPlaceholder_eq_of_raw_eq ha hb hab

/-! ## Renderings -/

variable (e)

theorem render_eq_freshValues (template : Template) (memory : σ) :
    e.render template metadata memory = (e.freshValues metadata template.firsts memory).mapOk
      fun values => template.filled (template.shared values) := by
  rw [render_eq, values_eq_freshValues, Run.mapOk_mapOk]
  rfl

theorem renderTokens_append_of_mem {tokens : List Token} {token : Token}
    (h : token.raw ∈ tokens.map Token.raw) (t : Text) (memory : σ) :
    (e.renderTokens metadata (tokens ++ [token]) [] t memory).events =
        (e.renderTokens metadata tokens [] t memory).events ∧
      (e.renderTokens metadata (tokens ++ [token]) [] t memory).memory =
        (e.renderTokens metadata tokens [] t memory).memory := by
  rw [renderTokens_eq, renderTokens_eq, values_eq_freshValues, values_eq_freshValues]
  rw [firstsFrom_append_of_mem h]
  exact ⟨rfl, rfl⟩

/-- A rendering calls transforms and reports failures just as the values of the first occurrences
do, worked out one after the other, up to a failure that ends it; it fails as they do, and fills the
template with their values. A token whose source text has occurred brings no event, does not touch
the memory, and has the value that this source text had before. If no transform looks at the memory,
then the result is the same without a memo. -/
theorem render_eq_firsts (d : Delimiters) (source : Text) (memory : σ) :
    let template := Template.parse d source
    let upTo k := e.renderTokens metadata (template.tokens.take k) [] source memory
    e.render template metadata memory =
        (e.freshValues metadata template.firsts memory).mapOk
          (fun values => template.filled (template.shared values)) ∧
      (∀ k (h : k < template.tokens.length),
        template.tokens[k].raw ∈ (template.tokens.take k).map Token.raw →
        (upTo (k + 1)).events = (upTo k).events ∧ (upTo (k + 1)).memory = (upTo k).memory) ∧
      (∀ values, (e.values metadata template.tokens [] memory).result = .ok values →
        ∀ j k (hj : j < template.tokens.length) (hk : k < template.tokens.length),
          template.tokens[j].raw = template.tokens[k].raw → values[j]? = values[k]?) ∧
      (e.IsPure → (e.render template metadata memory).result =
        (e.renderAfresh metadata template memory).result) := by
  intro template upTo
  refine ⟨e.render_eq_freshValues metadata template memory, ?_, ?_, ?_⟩
  · intro k hk hmem
    have htake : template.tokens.take (k + 1) = template.tokens.take k ++ [template.tokens[k]] :=
      (List.take_append_getElem hk).symm
    simp only [upTo, htake]
    exact e.renderTokens_append_of_mem metadata hmem source memory
  · intro values hv j k hj hk hraw
    rw [values_eq_freshValues] at hv
    obtain ⟨fresh, -, rfl⟩ := Run.mapOk_result.mp hv
    simp only [List.getElem?_map, List.getElem?_eq_getElem hj, List.getElem?_eq_getElem hk,
      Option.map_some, valueAmong, hraw]
  · intro hpure
    rw [render_eq, renderAfresh]
    exact congrArg (Except.map template.filled)
      (hpure.result_values_scan metadata d source memory)

theorem isPure_standard (options : Options) (listener : Option Text) :
    ({ options := options, listener := listener } : Engine σ).IsPure := by
  intro name transform h value args memory memory'
  rw [Registry.find?_standard] at h
  obtain ⟨f, -, rfl⟩ := Option.map_eq_some_iff.mp h
  rfl

/-- A transform that numbers its calls is asked once for each source text, and the third token
shares the value of the first one. With the usual transforms nobody can tell. -/
theorem render_numbered :
    let number : Transform Nat := fun value _ n =>
      (.ok (value ++ '#' :: Decimal.Layout.digits n), n + 1)
    let numbered : Engine Nat := { registry := [("n".toList, number)] }
    let source := "<<@a->n@>> <<@b->n@>> <<@a->n@>>".toList
    let metadata := Json.object [("a".toList, .string ['x']), ("b".toList, .string ['y'])]
    let run := numbered.render (.parse {} source) metadata 1
    let usual : Engine Nat := {}
    run.result = .ok "x#1 y#2 x#1".toList ∧ run.memory = 3 ∧
      run.events = [.called ['n'] ['x'] [], .called ['n'] ['y'] []] ∧
      usual.IsPure ∧ (usual.render (.parse {} source) metadata 1).result =
        (usual.renderAfresh metadata (.parse {} source) 1).result := by
  intro number numbered source metadata run usual
  obtain ⟨hrun, -⟩ := numbered.render_eq_firsts metadata {} source 1
  obtain ⟨-, -, -, hsame⟩ := usual.render_eq_firsts metadata {} source 1
  have hpure : usual.IsPure := isPure_standard {} none
  refine ⟨?_, ?_, ?_, hpure, hsame hpure⟩
  · exact (congrArg Run.result hrun).trans (by decide +kernel)
  · exact (congrArg Run.memory hrun).trans (by decide +kernel)
  · exact (congrArg Run.events hrun).trans (by decide +kernel)

end Engine

end Stencil
