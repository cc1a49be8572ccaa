import Stencil.Proofs.Engine.Memo

/-!
# Strict and lax renderings

`Engine.inMode` changes two things about an engine: whether it is strict, and who listens to its
failures. Renderings in different modes go the same way up to the first failure that a strict
rendering may end with, `Failure.isFatal`: there a strict rendering that nobody listens to ends, and
all others go on with the fallback value.

* `Engine.preserved_value`, `Engine.failure?_value` compare the values of one placeholder.
* `Engine.preserved_values`, `Engine.failure?_values` carry this over to all tokens.
* `Engine.render_inMode` is the statement for renderings.
-/

namespace Stencil

/-- May a strict rendering end with this failure? -/
def Failure.isFatal (failure : Failure) : Bool :=
  match failure.cause with
  | .missingKey => true
  | .unknownFunction _ => true
  | .transform .. => false

namespace Run

variable {σ ε α β : Type}

/-- The failure that a run ends with. -/
def failure? (run : Run σ (Except ε α)) : Option ε :=
  match run.result with
  | .ok _ => none
  | .error failure => some failure

theorem failure?_eq_some {run : Run σ (Except ε α)} {failure : ε} :
    run.failure? = some failure ↔ run.result = .error failure := by
  cases hr : run.result <;> simp [failure?, hr]

theorem failure?_after (events : List Event) (run : Run σ (Except ε α)) :
    (run.after events).failure? = run.failure? := rfl

theorem failure?_mapOk (f : α → β) (run : Run σ (Except ε α)) :
    (run.mapOk f).failure? = run.failure? := by
  cases hr : run.result <;> simp [failure?, mapOk, hr, Except.map]

/-- Two runs end alike: with the same result and the same memory. -/
def EndsLike (run run' : Run σ α) : Prop := run.result = run'.result ∧ run.memory = run'.memory

/-- The second run ends like the first one, if that gives a value. -/
def Preserved (run run' : Run σ (Except ε α)) : Prop :=
  ∀ a, run.result = .ok a → run'.EndsLike run

theorem Preserved.mapOk {run run' : Run σ (Except ε α)} (h : run.Preserved run') (f : α → β) :
    (run.mapOk f).Preserved (run'.mapOk f) := by
  intro b hb
  obtain ⟨a, ha, -⟩ := mapOk_result.mp hb
  exact ⟨congrArg (Except.map f) (h a ha).1, (h a ha).2⟩

/-- The first failure in the reports of a run that a strict rendering may end with. -/
def firstFatal? (run : Run σ α) : Option Failure := run.reports.find? Failure.isFatal

theorem firstFatal?_after (run : Run σ α) (run' : Run σ β) :
    (run'.after run.events).firstFatal? = run.firstFatal?.or run'.firstFatal? := by
  simp only [firstFatal?, reports, after, List.filterMap_append, List.find?_append]

end Run

namespace Engine

variable {σ : Type} (e : Engine σ) (metadata : Json)

/-- The engine in another mode: strict or not, with a listener or without one. -/
def inMode (strict : Bool) (listener : Option Text) : Engine σ :=
  { e with options := { e.options with strict := strict }, listener := listener }

/-! ## Chains -/

variable (p : Placeholder) (calls : List Call) (value : Text) (memory : σ)

/-- What one call does, in any mode: it is unknown, it fails, or it gives a new value. -/
theorem applyCalls_inMode_cases (call : Call) :
    (∀ strict listener more, (e.inMode strict listener).applyCalls p (call :: more) value memory =
      if strict then ⟨.error (.of p (.unknownFunction call.name)), [], memory⟩
      else ((e.inMode strict listener).applyCalls p more value memory).after
        ((e.inMode strict listener).report (.of p (.unknownFunction call.name)))) ∨
    (∃ reason memory', ∀ strict listener more,
      (e.inMode strict listener).applyCalls p (call :: more) value memory =
        ⟨.error (.of p (.transform call.name reason)), [.called call.name value call.args],
          memory'⟩) ∨
    ∃ value' memory', ∀ strict listener more,
      (e.inMode strict listener).applyCalls p (call :: more) value memory =
        ((e.inMode strict listener).applyCalls p more value' memory').after
          [.called call.name value call.args] := by
  cases hf : e.registry.find? call.name with
  | none =>
    left
    intro strict listener more
    exact (e.inMode strict listener).applyCalls_of_none hf p more value memory
  | some transform =>
    right
    cases ht : transform value call.args memory with
    | mk result memory' =>
      cases result with
      | error reason =>
        left
        refine ⟨reason, memory', ?_⟩
        intro strict listener more
        exact (e.inMode strict listener).applyCalls_of_error hf ht p more
      | ok value' =>
        right
        refine ⟨value', memory', ?_⟩
        intro strict listener more
        exact (e.inMode strict listener).applyCalls_of_ok hf ht p more

/-- A strict chain reports nothing, so it does not matter who listens. -/
theorem applyCalls_strict (listener : Option Text) :
    (e.inMode true listener).applyCalls p calls value memory =
        (e.inMode true none).applyCalls p calls value memory ∧
      ((e.inMode true none).applyCalls p calls value memory).reports = [] := by
  induction calls generalizing value memory with
  | nil => exact ⟨rfl, rfl⟩
  | cons call more ih =>
    rcases e.applyCalls_inMode_cases p value memory call with
      h | ⟨reason, memory', h⟩ | ⟨value', memory', h⟩
    · rw [h, h]
      exact ⟨rfl, rfl⟩
    · rw [h, h]
      exact ⟨rfl, rfl⟩
    · rw [h, h, (ih value' memory').1]
      exact ⟨rfl, (ih value' memory').2⟩

/-- A lax chain goes the way of the strict one, unless that meets an unknown call. -/
theorem applyCalls_lax (listener : Option Text)
    (hfatal : ∀ failure, ((e.inMode true none).applyCalls p calls value memory).result =
      .error failure → failure.isFatal = false) :
    ((e.inMode false listener).applyCalls p calls value memory).EndsLike
      ((e.inMode true none).applyCalls p calls value memory) := by
  induction calls generalizing value memory with
  | nil => exact ⟨rfl, rfl⟩
  | cons call more ih =>
    rcases e.applyCalls_inMode_cases p value memory call with
      h | ⟨reason, memory', h⟩ | ⟨value', memory', h⟩
    -- the strict chain ends at an unknown call, and this failure is fatal
    · rw [h] at hfatal
      cases hfatal _ rfl
    · rw [h, h]
      exact ⟨rfl, rfl⟩
    · rw [h] at hfatal
      rw [h, h]
      exact ih value' memory' hfatal

theorem applyCalls_lax_listener (listener : Option Text) :
    ((e.inMode false listener).applyCalls p calls value memory).EndsLike
      ((e.inMode false none).applyCalls p calls value memory) := by
  induction calls generalizing value memory with
  | nil => exact ⟨rfl, rfl⟩
  | cons call more ih =>
    rcases e.applyCalls_inMode_cases p value memory call with
      h | ⟨reason, memory', h⟩ | ⟨value', memory', h⟩
    · rw [h, h]
      exact ih value memory
    · rw [h, h]
      exact ⟨rfl, rfl⟩
    · rw [h, h]
      exact ih value' memory'

/-! ## One placeholder -/

/-- What a chain starts from, in any mode: the same value, or nothing is there to start from. -/
theorem select_inMode_cases :
    (∃ value, ∀ strict listener, (e.inMode strict listener).select metadata p = .ok value) ∨
    ∀ strict listener, (e.inMode strict listener).select metadata p =
      if strict then .error (.of p .missingKey) else .ok e.options.fallbackValue := by
  cases hr : metadata.resolve? p.path with
  | some found =>
    left
    refine ⟨found.text, ?_⟩
    intro strict listener
    rw [select, hr]
  | none =>
    cases hf : p.fallback with
    | some text =>
      left
      refine ⟨text, ?_⟩
      intro strict listener
      rw [select, hr, hf]
    | none =>
      right
      intro strict listener
      rw [select, hr, hf]
      rfl

theorem evaluate_strict (listener : Option Text) :
    (e.inMode true listener).evaluate metadata p memory =
        (e.inMode true none).evaluate metadata p memory ∧
      ((e.inMode true none).evaluate metadata p memory).reports = [] := by
  rw [evaluate, evaluate]
  rcases e.select_inMode_cases metadata p with ⟨value, h⟩ | h
  · rw [h, h]
    exact e.applyCalls_strict p p.calls value memory listener
  · rw [h, h]
    exact ⟨rfl, rfl⟩

theorem evaluate_lax (listener : Option Text)
    (hfatal : ∀ failure, ((e.inMode true none).evaluate metadata p memory).result =
      .error failure → failure.isFatal = false) :
    ((e.inMode false listener).evaluate metadata p memory).EndsLike
      ((e.inMode true none).evaluate metadata p memory) := by
  rw [evaluate] at hfatal
  rw [evaluate, evaluate]
  rcases e.select_inMode_cases metadata p with ⟨value, h⟩ | h
  · rw [h] at hfatal
    rw [h, h]
    exact e.applyCalls_lax p p.calls value memory listener hfatal
  · rw [h] at hfatal
    cases hfatal _ rfl

theorem evaluate_lax_listener (listener : Option Text) :
    ((e.inMode false listener).evaluate metadata p memory).EndsLike
      ((e.inMode false none).evaluate metadata p memory) := by
  rw [evaluate, evaluate]
  rcases e.select_inMode_cases metadata p with ⟨value, h⟩ | h
  · rw [h, h]
    exact e.applyCalls_lax_listener p p.calls value memory listener
  · rw [h, h]
    exact e.applyCalls_lax_listener p p.calls _ memory listener

/-- Unless a strict chain ends with a fatal failure, all modes end like it. -/
theorem evaluate_inMode (strict : Bool) (listener : Option Text)
    (hfatal : ∀ failure, ((e.inMode true none).evaluate metadata p memory).result =
      .error failure → failure.isFatal = false) :
    ((e.inMode strict listener).evaluate metadata p memory).EndsLike
      ((e.inMode true none).evaluate metadata p memory) := by
  cases strict with
  | false => exact e.evaluate_lax metadata p memory listener hfatal
  | true =>
    rw [(e.evaluate_strict metadata p memory listener).1]
    exact ⟨rfl, rfl⟩

/-! ## Recovering -/

theorem escalates_eq (failure : Failure) :
    e.escalates failure = (e.options.strict && e.listener.isNone && failure.isFatal) := by
  unfold escalates Failure.isFatal
  cases failure.cause <;> rfl

variable {e} in
theorem recover_of_ok {run : Run σ (Except Failure Text)} {value : Text}
    (h : run.result = .ok value) : e.recover run = run := by
  rw [recover, h]

variable {e} in
theorem recover_of_error {run : Run σ (Except Failure Text)} {failure : Failure}
    (h : run.result = .error failure) :
    e.recover run = if e.escalates failure then run
      else ⟨.ok e.options.fallbackValue, run.events ++ e.report failure, run.memory⟩ := by
  rw [recover, h]

theorem recover_endsLike {e e' : Engine σ} {run run' : Run σ (Except Failure Text)}
    (h : run.EndsLike run') (hfallback : e.options.fallbackValue = e'.options.fallbackValue)
    (hescalates : ∀ failure, run'.result = .error failure →
      e.escalates failure = e'.escalates failure) :
    (e.recover run).EndsLike (e'.recover run') := by
  obtain ⟨hresult, hmemory⟩ := h
  cases hr : run'.result with
  | ok value =>
    rw [recover_of_ok hr, recover_of_ok (hresult.trans hr)]
    exact ⟨hresult, hmemory⟩
  | error failure =>
    rw [recover_of_error hr, recover_of_error (hresult.trans hr), hescalates failure hr]
    by_cases hs : e'.escalates failure = true
    · rw [if_pos hs, if_pos hs]
      exact ⟨hresult, hmemory⟩
    · rw [if_neg hs, if_neg hs, hfallback]
      exact ⟨rfl, hmemory⟩

theorem value_eq_ok (h : e.options.strict = false ∨ e.listener.isSome) :
    ∃ value, (e.value metadata p memory).result = .ok value := by
  rw [Engine.value]
  cases hr : (e.evaluate metadata p memory).result with
  | ok value => exact ⟨value, by rw [recover_of_ok hr, hr]⟩
  | error failure =>
    have hescalates : e.escalates failure = false := by
      rw [escalates_eq]
      rcases h with h | h
      · rw [h]
        rfl
      · rw [Option.isNone_eq_false_iff.mpr h, Bool.and_false, Bool.false_and]
    rw [recover_of_error hr, hescalates]
    exact ⟨_, rfl⟩

theorem isFatal_of_value {failure : Failure}
    (h : (e.value metadata p memory).result = .error failure) : failure.isFatal = true := by
  rw [Engine.value] at h
  cases hr : (e.evaluate metadata p memory).result with
  | ok value =>
    rw [recover_of_ok hr, hr] at h
    cases h
  | error found =>
    rw [recover_of_error hr] at h
    by_cases hs : e.escalates found = true
    · rw [if_pos hs, hr] at h
      cases h
      rw [escalates_eq] at hs
      exact (Bool.and_eq_true_iff.mp hs).2
    · rw [if_neg hs] at h
      cases h

theorem escalates_inMode (strict : Bool) (listener : Option Text) (failure : Failure) :
    (e.inMode strict listener).escalates failure =
      (strict && listener.isNone && failure.isFatal) :=
  (e.inMode strict listener).escalates_eq failure

theorem preserved_value (strict : Bool) (listener : Option Text) :
    ((e.inMode true none).value metadata p memory).Preserved
      ((e.inMode strict listener).value metadata p memory) := by
  intro value hvalue
  have hfatal : ∀ failure, ((e.inMode true none).evaluate metadata p memory).result =
      .error failure → failure.isFatal = false := by
    intro failure hr
    by_contra hfatal
    rw [Bool.not_eq_false] at hfatal
    rw [Engine.value, recover_of_error hr, escalates_inMode, hfatal] at hvalue
    simp only [Option.isNone_none, Bool.and_self, if_true, hr, reduceCtorEq] at hvalue
  rw [Engine.value, Engine.value]
  refine recover_endsLike (e.evaluate_inMode metadata p memory strict listener hfatal) ?_ ?_
  · rfl
  intro failure hr
  rw [escalates_inMode, escalates_inMode, hfatal failure hr, Bool.and_false, Bool.and_false]

theorem preserved_value_lax (listener : Option Text) :
    ((e.inMode false none).value metadata p memory).Preserved
      ((e.inMode false listener).value metadata p memory) := by
  intro _ _
  rw [Engine.value, Engine.value]
  refine recover_endsLike (e.evaluate_lax_listener metadata p memory listener) ?_ ?_
  · rfl
  intro failure _
  simp only [escalates_inMode, Bool.false_and]

/-- The failure that ends a strict rendering without a listener is the first fatal one that a
listener hears of. -/
theorem failure?_value (tag : Text) :
    ((e.inMode true none).value metadata p memory).failure? =
      ((e.inMode true (some tag)).value metadata p memory).firstFatal? := by
  obtain ⟨hsame, hreports⟩ := e.evaluate_strict metadata p memory (some tag)
  rw [Engine.value, Engine.value, hsame]
  cases hr : ((e.inMode true none).evaluate metadata p memory).result with
  | ok value =>
    rw [recover_of_ok hr, recover_of_ok hr, Run.failure?, hr, Run.firstFatal?, hreports]
    rfl
  | error failure =>
    rw [recover_of_error hr, recover_of_error hr, escalates_inMode, escalates_inMode]
    have hheard : (e.inMode true (some tag)).report failure = [.reported failure] := rfl
    rw [Run.reports] at hreports
    simp only [Option.isNone_some, Bool.and_false, Bool.false_and, Bool.false_eq_true, if_false,
      Run.firstFatal?, Run.reports, List.filterMap_append, hreports, hheard, List.nil_append,
      List.filterMap_cons, List.filterMap_nil, List.find?_cons, List.find?_nil]
    cases hfatal : failure.isFatal with
    | true => exact Run.failure?_eq_some.mpr hr
    | false => rfl

/-! ## All tokens -/

variable {metadata}

theorem preserved_values {e e' : Engine σ}
    (h : ∀ p memory, (e.value metadata p memory).Preserved (e'.value metadata p memory))
    (tokens : List Token) (known : Entries Text) (memory : σ) :
    (e.values metadata tokens known memory).Preserved
      (e'.values metadata tokens known memory) := by
  induction tokens generalizing known memory with
  | nil =>
    intro _ _
    exact ⟨rfl, rfl⟩
  | cons token more ih =>
    cases hk : known.get? token.raw with
    | some value =>
      rw [e.values_of_known metadata hk, e'.values_of_known metadata hk]
      exact (ih known memory).mapOk _
    | none =>
      cases hr : (e.value metadata token.toPlaceholder memory).result with
      | error failure =>
        rw [e.values_of_error metadata hk hr]
        intro _ hall
        cases hall
      | ok value =>
        obtain ⟨hresult, hmemory⟩ := h token.toPlaceholder memory value hr
        rw [e.values_of_ok metadata hk hr, e'.values_of_ok metadata hk (hresult.trans hr), hmemory]
        exact (ih _ _).mapOk _

variable {e}

theorem values_eq_ok (h : ∀ p memory, ∃ value, (e.value metadata p memory).result = .ok value)
    (tokens : List Token) (known : Entries Text) (memory : σ) :
    ∃ all, (e.values metadata tokens known memory).result = .ok all := by
  induction tokens generalizing known memory with
  | nil => exact ⟨[], rfl⟩
  | cons token more ih =>
    cases hk : known.get? token.raw with
    | some value =>
      obtain ⟨all, hall⟩ := ih known memory
      rw [e.values_of_known metadata hk]
      exact ⟨_, Run.mapOk_result.mpr ⟨all, hall, rfl⟩⟩
    | none =>
      obtain ⟨value, hr⟩ := h token.toPlaceholder memory
      obtain ⟨all, hall⟩ := ih (known.insert token.raw value)
        (e.value metadata token.toPlaceholder memory).memory
      rw [e.values_of_ok metadata hk hr]
      exact ⟨_, Run.mapOk_result.mpr ⟨all, hall, rfl⟩⟩

theorem isFatal_of_values {tokens : List Token} {known : Entries Text} {memory : σ}
    {failure : Failure} (h : (e.values metadata tokens known memory).failure? = some failure) :
    failure.isFatal = true := by
  induction tokens generalizing known memory with
  | nil => cases h
  | cons token more ih =>
    cases hk : known.get? token.raw with
    | some value =>
      rw [e.values_of_known metadata hk, Run.failure?_mapOk] at h
      exact ih h
    | none =>
      cases hr : (e.value metadata token.toPlaceholder memory).result with
      | error found =>
        rw [e.values_of_error metadata hk hr] at h
        cases h
        exact e.isFatal_of_value metadata token.toPlaceholder memory hr
      | ok value =>
        rw [e.values_of_ok metadata hk hr, Run.failure?_after, Run.failure?_mapOk] at h
        exact ih h

theorem failure?_values (tag : Text) (tokens : List Token) (known : Entries Text) (memory : σ) :
    ((e.inMode true none).values metadata tokens known memory).failure? =
      ((e.inMode true (some tag)).values metadata tokens known memory).firstFatal? := by
  induction tokens generalizing known memory with
  | nil => rfl
  | cons token more ih =>
    cases hk : known.get? token.raw with
    | some value =>
      rw [values_of_known _ metadata hk, values_of_known _ metadata hk, Run.failure?_mapOk]
      exact ih known memory
    | none =>
      -- with a listener the run goes on, so the two only compare up to the first fatal failure
      have hvalue := e.failure?_value metadata token.toPlaceholder memory tag
      have hheard : (e.inMode true (some tag)).options.strict = false ∨
          (e.inMode true (some tag)).listener.isSome := Or.inr rfl
      obtain ⟨value, hr⟩ := value_eq_ok _ metadata token.toPlaceholder memory hheard
      rw [values_of_ok _ metadata hk hr, Run.firstFatal?_after, ← hvalue]
      cases hs : ((e.inMode true none).value metadata token.toPlaceholder memory).result with
      | error failure =>
        rw [values_of_error _ metadata hk hs, Run.failure?_eq_some.mpr hs, Option.some_or]
        rfl
      | ok value' =>
        have hnone : ((e.inMode true none).value metadata token.toPlaceholder memory).failure? =
            none := by
          rw [Run.failure?, hs]
        obtain ⟨hresult, hmemory⟩ :=
          e.preserved_value metadata token.toPlaceholder memory true (some tag) value' hs
        rw [hr, hs] at hresult
        cases hresult
        rw [values_of_ok _ metadata hk hs, hnone, Option.none_or, Run.failure?_after,
          Run.failure?_mapOk, hmemory]
        exact ih _ _

/-! ## Renderings -/

/-- Strictness and the listener change only what they should. A lax rendering always succeeds, with
the same text for all listeners; so does a strict rendering with a listener. If a strict rendering
without a listener succeeds, then all others give the same text; if not, then it ends with the first
failure that is fatal among those a listener would hear of. No rendering ever ends with the failure
of a transform. -/
theorem render_inMode (e : Engine σ) (template : Template) (metadata : Json) (memory : σ) :
    let run strict listener := (e.inMode strict listener).render template metadata memory
    (∃ t, ∀ listener, (run false listener).result = .ok t) ∧
      (∀ tag, ∃ t, (run true (some tag)).result = .ok t) ∧
      (∀ t, (run true none).result = .ok t →
        ∀ strict listener, (run strict listener).result = .ok t) ∧
      (∀ tag failure, (run true none).result = .error failure ↔
        (run true (some tag)).reports.find? Failure.isFatal = some failure) ∧
      ∀ strict listener failure, (run strict listener).result = .error failure →
        ∀ name reason, failure.cause ≠ .transform name reason := by
  intro run
  have hrun : ∀ strict listener, run strict listener =
      ((e.inMode strict listener).values metadata template.tokens [] memory).mapOk
        template.filled := by
    intro strict listener
    exact (e.inMode strict listener).render_eq metadata template memory
  simp only [hrun]
  refine ⟨?_, ?_, ?_, ?_, ?_⟩
  · have hlax : ∀ p memory, ∃ value,
        ((e.inMode false none).value metadata p memory).result = .ok value :=
      fun p memory => value_eq_ok _ metadata p memory (Or.inl rfl)
    obtain ⟨all, hall⟩ := values_eq_ok hlax template.tokens [] memory
    refine ⟨template.filled all, ?_⟩
    intro listener
    have hsame := preserved_values
      (fun p memory => e.preserved_value_lax metadata p memory listener)
      template.tokens [] memory all hall
    exact Run.mapOk_result.mpr ⟨all, hsame.1.trans hall, rfl⟩
  · intro tag
    have hheard : ∀ p memory, ∃ value,
        ((e.inMode true (some tag)).value metadata p memory).result = .ok value :=
      fun p memory => value_eq_ok _ metadata p memory (Or.inr rfl)
    obtain ⟨all, hall⟩ := values_eq_ok hheard template.tokens [] memory
    exact ⟨_, Run.mapOk_result.mpr ⟨all, hall, rfl⟩⟩
  · intro t ht strict listener
    obtain ⟨all, hall, rfl⟩ := Run.mapOk_result.mp ht
    have hsame := preserved_values
      (fun p memory => e.preserved_value metadata p memory strict listener)
      template.tokens [] memory all hall
    exact Run.mapOk_result.mpr ⟨all, hsame.1.trans hall, rfl⟩
  · intro tag failure
    rw [← Run.failure?_eq_some, Run.failure?_mapOk, failure?_values tag]
    rfl
  · intro strict listener failure h name reason hcause
    rw [← Run.failure?_eq_some, Run.failure?_mapOk] at h
    have hfatal := isFatal_of_values h
    rw [Failure.isFatal, hcause] at hfatal
    cases hfatal

/-- A failing transform hides an unknown function behind it, which the next token has too. -/
theorem render_hidden_failure :
    let e : Engine Unit := { registry := [("f".toList, fun _ _ s => (.error "no".toList, s))] }
    let template := Template.parse {} "<<@a->f->g@>>, <<@a->g@>>, <<@b@>>".toList
    let metadata := Json.object [("a".toList, .string ['x'])]
    let run strict listener := (e.inMode strict listener).render template metadata ()
    (run true none).result = .error ⟨.unknownFunction ['g'], ['a'], ['a']⟩ ∧
      (run true (some [])).reports.find? Failure.isFatal =
        some ⟨.unknownFunction ['g'], ['a'], ['a']⟩ ∧
      (run true (some [])).reports.map Failure.cause =
        [.transform ['f'] "no".toList, .unknownFunction ['g'], .missingKey] ∧
      (run true (some [])).result = .ok ", , ".toList ∧
      (run false none).result = .ok ", x, ".toList := by
  intro e template metadata run
  obtain ⟨-, -, -, hfails, -⟩ := e.render_inMode template metadata ()
  have hstrict : (run true none).result = .error ⟨.unknownFunction ['g'], ['a'], ['a']⟩ := by
    decide +kernel
  exact ⟨hstrict, (hfails [] _).mp hstrict, by decide +kernel, by decide +kernel, by decide +kernel⟩

end Engine

end Stencil
