import Stencil.Proofs.Engine.Memo

/-!
# What a rendering takes from the metadata

Metadata matters to a rendering only through the values that chains start from, and the failures of
a rendering are those of its placeholders.

* `Engine.render_congr`: metadata from which the same values are selected gives the same run.
* `Run.Complains`: a run ends with a failure or reports it.
* `Engine.complains_render`: every failure of a rendering comes from the value of some token.
* `Engine.cause_ne_missingKey`: no key is missing where a value is selected.
-/

namespace Stencil

/-! ## Failures of a run -/

namespace Run

variable {σ α β : Type} {run : Run σ (Except Failure α)} {failure : Failure}

/-- The run ends with this failure, or reports it on the way. -/
def Complains (run : Run σ (Except Failure α)) (failure : Failure) : Prop :=
  run.result = .error failure ∨ .reported failure ∈ run.events

theorem complains_iff :
    run.Complains failure ↔ run.result = .error failure ∨ failure ∈ run.reports := by
  rw [Complains, reports, List.mem_filterMap]
  refine or_congr_right ⟨fun h => ⟨_, h, rfl⟩, ?_⟩
  rintro ⟨event, hmem, hevent⟩
  cases event with
  | called => cases hevent
  | reported found => exact Option.some.inj hevent ▸ hmem

theorem complains_after {events : List Event} :
    (run.after events).Complains failure ↔ .reported failure ∈ events ∨ run.Complains failure := by
  rw [Complains, Complains, after, List.mem_append]
  exact or_left_comm

theorem complains_mapOk {f : α → β} : (run.mapOk f).Complains failure ↔ run.Complains failure := by
  cases hr : run.result <;> simp [Complains, mapOk, hr, Except.map]

end Run

namespace Engine

variable {σ : Type} (e : Engine σ)

/-! ## The same values -/

variable {metadata metadata' : Json}

theorem value_congr {p : Placeholder} (h : e.select metadata p = e.select metadata' p)
    (memory : σ) : e.value metadata p memory = e.value metadata' p memory := by
  rw [value, value, evaluate, evaluate, h]

theorem values_congr {tokens : List Token}
    (h : ∀ token ∈ tokens,
      e.select metadata token.toPlaceholder = e.select metadata' token.toPlaceholder)
    (known : Entries Text) (memory : σ) :
    e.values metadata tokens known memory = e.values metadata' tokens known memory := by
  induction tokens generalizing known memory with
  | nil => rfl
  | cons token more ih =>
    have hvalue := e.value_congr (h token List.mem_cons_self)
    have hmore := ih fun other hother => h other (List.mem_cons_of_mem _ hother)
    simp only [values, nextValue, hvalue, hmore]

/-- Metadata from which the same values are selected gives the same run: the same result, calls and
reports, and the same memory afterwards. -/
theorem render_congr {template : Template}
    (h : ∀ token ∈ template.tokens,
      e.select metadata token.toPlaceholder = e.select metadata' token.toPlaceholder)
    (memory : σ) : e.render template metadata memory = e.render template metadata' memory := by
  rw [render_eq, render_eq, e.values_congr h]

/-! ## Where failures come from -/

variable {e} {failure : Failure} {memory : σ}

theorem eq_of_reported_mem_report {found : Failure} (h : .reported failure ∈ e.report found) :
    failure = found := by
  unfold report at h
  split at h
  · exact Event.reported.inj (List.mem_singleton.mp h)
  · cases h

/-- A chain complains about its calls only. -/
theorem cause_ne_missingKey_of_applyCalls {p : Placeholder} {calls : List Call} {value : Text}
    (h : (e.applyCalls p calls value memory).Complains failure) : failure.cause ≠ .missingKey := by
  induction calls generalizing value memory with
  | nil => rcases h with h | h <;> cases h
  | cons call more ih =>
    cases hf : e.registry.find? call.name with
    | none =>
      rw [e.applyCalls_of_none hf] at h
      by_cases hs : e.options.strict = true
      · rw [if_pos hs] at h
        rcases h with h | h <;> cases h
        exact nofun
      · rw [if_neg hs, Run.complains_after] at h
        rcases h with h | h
        · rw [eq_of_reported_mem_report h]
          exact nofun
        · exact ih h
    | some transform =>
      cases ht : transform value call.args memory with
      | mk result memory' =>
        cases result with
        | error reason =>
          rw [e.applyCalls_of_error hf ht] at h
          rcases h with h | h
          · cases h
            exact nofun
          · cases List.mem_singleton.mp h
        | ok value' =>
          rw [e.applyCalls_of_ok hf ht, Run.complains_after] at h
          rcases h with h | h
          · cases List.mem_singleton.mp h
          · exact ih h

theorem complains_of_recover {run : Run σ (Except Failure Text)}
    (h : (e.recover run).Complains failure) : run.Complains failure := by
  unfold recover at h
  split at h
  · exact h
  · rename_i found hr
    split at h
    · exact h
    · rcases h with h | h
      · cases h
      · rcases List.mem_append.mp h with h | h
        · exact Or.inr h
        · rw [eq_of_reported_mem_report h]
          exact Or.inl hr

/-- No key is missing where a value is selected. -/
theorem cause_ne_missingKey {p : Placeholder} {value : Text}
    (hselect : e.select metadata p = .ok value)
    (h : (e.value metadata p memory).Complains failure) : failure.cause ≠ .missingKey := by
  have hevaluate := complains_of_recover h
  rw [evaluate, hselect] at hevaluate
  exact cause_ne_missingKey_of_applyCalls hevaluate

theorem complains_values {tokens : List Token} {known : Entries Text}
    (h : (e.values metadata tokens known memory).Complains failure) :
    ∃ token ∈ tokens, ∃ memory,
      (e.value metadata token.toPlaceholder memory).Complains failure := by
  induction tokens generalizing known memory with
  | nil => rcases h with h | h <;> cases h
  | cons token more ih =>
    have hmore : ∀ {known memory}, (e.values metadata more known memory).Complains failure →
        ∃ other ∈ token :: more, ∃ memory,
          (e.value metadata other.toPlaceholder memory).Complains failure := by
      intro known memory h
      obtain ⟨other, hother, hvalue⟩ := ih h
      exact ⟨other, List.mem_cons_of_mem _ hother, hvalue⟩
    cases hk : known.get? token.raw with
    | some value =>
      rw [e.values_of_known metadata hk, Run.complains_mapOk] at h
      exact hmore h
    | none =>
      cases hr : (e.value metadata token.toPlaceholder memory).result with
      | error found =>
        rw [e.values_of_error metadata hk hr] at h
        refine ⟨token, List.mem_cons_self, memory, h.imp_left ?_⟩
        intro hfound
        rw [hr, Except.error.inj hfound]
      | ok value =>
        rw [e.values_of_ok metadata hk hr, Run.complains_after, Run.complains_mapOk] at h
        rcases h with h | h
        · exact ⟨token, List.mem_cons_self, memory, Or.inr h⟩
        · exact hmore h

/-- Every failure of a rendering comes from the value of some token. -/
theorem complains_render {template : Template}
    (h : (e.render template metadata memory).Complains failure) :
    ∃ token ∈ template.tokens, ∃ memory,
      (e.value metadata token.toPlaceholder memory).Complains failure := by
  rw [render_eq, Run.complains_mapOk] at h
  exact complains_values h

end Engine

end Stencil
