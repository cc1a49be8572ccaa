import Stencil.Engine
import Stencil.Proofs.Substitution.Filling

/-!
# The values of a rendering

A rendering gives every token a value and puts the values in their places. `Engine.values` is the
first half: `Engine.nextValue` gives a source text that is known already the value that it has, and
works the value out for any other.

* `Engine.renderTokens_eq`, `Engine.render_eq`: rendering is `Engine.values`, filled in.
* `Engine.values_take`: the values of the first tokens do not depend on the others.
-/

namespace Stencil

/-- The same run with another result, if there is one. -/
def Run.mapOk {σ ε α β : Type} (f : α → β) (run : Run σ (Except ε α)) : Run σ (Except ε β) :=
  ⟨run.result.map f, run.events, run.memory⟩

theorem Run.mapOk_result {σ ε α β : Type} {f : α → β} {run : Run σ (Except ε α)} {b : β} :
    (run.mapOk f).result = .ok b ↔ ∃ a, run.result = .ok a ∧ f a = b := by
  cases hr : run.result <;> simp [Run.mapOk, hr, Except.map]

namespace Engine

variable {σ : Type} (e : Engine σ) (metadata : Json)

/-! ## One call of a chain -/

variable {call : Call} {value : Text} {memory memory' : σ}

theorem applyCalls_of_none (h : e.registry.find? call.name = none) (p : Placeholder)
    (more : List Call) (value : Text) (memory : σ) :
    e.applyCalls p (call :: more) value memory =
      if e.options.strict then ⟨.error (.of p (.unknownFunction call.name)), [], memory⟩
      else (e.applyCalls p more value memory).after
        (e.report (.of p (.unknownFunction call.name))) := by
  rw [applyCalls, h]

theorem applyCalls_of_error {transform : Transform σ} {reason : Text}
    (h : e.registry.find? call.name = some transform)
    (ht : transform value call.args memory = (.error reason, memory')) (p : Placeholder)
    (more : List Call) :
    e.applyCalls p (call :: more) value memory =
      ⟨.error (.of p (.transform call.name reason)), [.called call.name value call.args],
        memory'⟩ := by
  simp only [applyCalls, h, ht]

theorem applyCalls_of_ok {transform : Transform σ} {value' : Text}
    (h : e.registry.find? call.name = some transform)
    (ht : transform value call.args memory = (.ok value', memory')) (p : Placeholder)
    (more : List Call) :
    e.applyCalls p (call :: more) value memory =
      (e.applyCalls p more value' memory').after [.called call.name value call.args] := by
  simp only [applyCalls, h, ht]

/-! ## One token after the other -/

/-- The value of a token, and what is known afterwards. `known` has the values of earlier tokens
under their source texts. -/
def nextValue (token : Token) (known : Entries Text) (memory : σ) :
    Run σ (Except Failure (Text × Entries Text)) :=
  match known.get? token.raw with
  | some value => ⟨.ok (value, known), [], memory⟩
  | none =>
    (e.value metadata token.toPlaceholder memory).mapOk fun value =>
      (value, known.insert token.raw value)

/-- The values of tokens, in order. -/
def values : List Token → Entries Text → σ → Run σ (Except Failure (List Text))
  | [], _, memory => ⟨.ok [], [], memory⟩
  | token :: more, known, memory =>
    let run := e.nextValue metadata token known memory
    match run.result with
    | .error failure => ⟨.error failure, run.events, run.memory⟩
    | .ok (value, known) => ((values more known run.memory).mapOk (value :: ·)).after run.events

theorem values_cons_ok_iff {token : Token} {more : List Token} {known : Entries Text} {memory : σ}
    {all : List Text} : (e.values metadata (token :: more) known memory).result = .ok all ↔
      ∃ value known' rest,
        (e.nextValue metadata token known memory).result = .ok (value, known') ∧
        (e.values metadata more known' (e.nextValue metadata token known memory).memory).result =
          .ok rest ∧ value :: rest = all := by
  simp only [values]
  cases hr : (e.nextValue metadata token known memory).result with
  | error failure => simp
  | ok next =>
    obtain ⟨value, known'⟩ := next
    simp only [Run.after, Run.mapOk_result, Except.ok.injEq, Prod.mk.injEq, and_assoc,
      exists_and_left, exists_eq_left']

theorem length_values {tokens : List Token} {known : Entries Text} {memory : σ} {all : List Text}
    (h : (e.values metadata tokens known memory).result = .ok all) :
    all.length = tokens.length := by
  induction tokens generalizing known memory all with
  | nil =>
    cases h
    rfl
  | cons token more ih =>
    obtain ⟨value, known', rest, -, hrest, rfl⟩ := (e.values_cons_ok_iff metadata).mp h
    rw [List.length_cons, List.length_cons, ih hrest]

theorem values_take {tokens : List Token} {known : Entries Text} {memory : σ} {all : List Text}
    (h : (e.values metadata tokens known memory).result = .ok all) (k : Nat) :
    (e.values metadata (tokens.take k) known memory).result = .ok (all.take k) := by
  induction tokens generalizing known memory all k with
  | nil =>
    cases h
    simp only [List.take_nil, values]
  | cons token more ih =>
    obtain ⟨value, known', rest, hvalue, hrest, rfl⟩ := (e.values_cons_ok_iff metadata).mp h
    cases k with
    | zero => rfl
    | succ k =>
      rw [List.take_succ_cons, List.take_succ_cons]
      exact (e.values_cons_ok_iff metadata).mpr ⟨value, known', _, hvalue, ih hrest k, rfl⟩

/-! ## Rendering -/

/-- Rendering gives the tokens their values, with the same events, and then fills them in. -/
theorem renderTokens_eq (tokens : List Token) (known : Entries Text) (t : Text) (memory : σ) :
    e.renderTokens metadata tokens known t memory =
      (e.values metadata tokens known memory).mapOk fun values =>
        Template.fill (tokens.zip values) t := by
  induction tokens generalizing known t memory with
  | nil => rfl
  | cons token more ih =>
    simp only [renderTokens, values, nextValue]
    cases hk : known.get? token.raw with
    | some value =>
      simp only [ih, Run.mapOk, Run.after, List.nil_append]
      cases (e.values metadata more known memory).result <;> rfl
    | none =>
      cases hr : e.value metadata token.toPlaceholder memory with
      | mk result events memory' =>
        cases result with
        | error failure => rfl
        | ok value =>
          simp only [ih, Run.mapOk, Run.after, Except.map]
          cases (e.values metadata more (known.insert token.raw value) memory').result <;> rfl

theorem render_eq (template : Template) (memory : σ) :
    e.render template metadata memory =
      (e.values metadata template.tokens [] memory).mapOk template.filled :=
  e.renderTokens_eq metadata template.tokens [] template.source memory

/-- A rendering that succeeds has a value for each token and fills the template with them. -/
theorem exists_values {template : Template} {memory : σ} {t : Text}
    (h : (e.render template metadata memory).result = .ok t) :
    ∃ values, (e.values metadata template.tokens [] memory).result = .ok values ∧
      values.length = template.tokens.length ∧ t = template.filled values := by
  rw [render_eq] at h
  obtain ⟨values, hv, rfl⟩ := Run.mapOk_result.mp h
  exact ⟨values, hv, e.length_values metadata hv, rfl⟩

/-- Rendering the first tokens only gives the text just before the next value is put in. -/
theorem renderTokens_take {template : Template} {memory : σ} {values : List Text}
    (h : (e.values metadata template.tokens [] memory).result = .ok values) (k : Nat) :
    (e.renderTokens metadata (template.tokens.take k) [] template.source memory).result =
      .ok (template.working values k) := by
  rw [renderTokens_eq, Run.mapOk_result]
  refine ⟨_, e.values_take metadata h k, ?_⟩
  rw [Template.working, List.zip, List.take_zipWith]

end Engine

end Stencil
