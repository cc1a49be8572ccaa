import Stencil.Proofs.Engine.Modes

/-!
# Calls of unknown functions

Without strictness a call that names no transform is reported and left out, and that is all it does.
`Passes` says what becomes of a value on its way through transforms that all succeed, so a chain
either passes its known calls or ends at the first of them that fails.

* `Engine.passes_or_fails`: the known calls of a chain pass, or there is a first one that fails.
* `Engine.applyCalls_known`: a chain against the same chain without its unknown calls.
* `Engine.applyCalls_passes`: what a chain calls and reports where its known calls pass.
* `Engine.value_lax` says both of the value of a placeholder, with all that is reported.
-/

namespace Stencil

/-! ## Events of a run -/

def Event.isCall : Event → Bool
  | .called .. => true
  | .reported _ => false

/-- The failure that is reported. -/
def Event.failure? : Event → Option Failure
  | .called .. => none
  | .reported failure => some failure

namespace Run

variable {σ α : Type}

/-- The calls of transforms, in order. -/
def called (run : Run σ α) : List Event := run.events.filter Event.isCall

theorem called_after (events : List Event) (run : Run σ α) :
    (run.after events).called = events.filter Event.isCall ++ run.called :=
  List.filter_append _ _

theorem reports_eq (run : Run σ α) : run.reports = run.events.filterMap Event.failure? := rfl

theorem reports_after (events : List Event) (run : Run σ α) :
    (run.after events).reports = events.filterMap Event.failure? ++ run.reports :=
  List.filterMap_append

theorem after_after (events events' : List Event) (run : Run σ α) :
    (run.after events').after events = run.after (events ++ events') := by
  rw [after, after, after, List.append_assoc]

end Run

/-! ## Ways through a chain -/

/-- Each of the calls names a transform and succeeds with the value and the memory that the one
before it has left. -/
inductive Passes {σ : Type} (registry : Registry (Transform σ)) :
    List Call → Text → σ → List Event → Text → σ → Prop
  | nil {value : Text} {memory : σ} : Passes registry [] value memory [] value memory
  | cons {call : Call} {more : List Call} {transform : Transform σ} {value value' value'' : Text}
      {memory memory' memory'' : σ} {called : List Event}
      (found : registry.find? call.name = some transform)
      (succeeds : transform value call.args memory = (.ok value', memory'))
      (tail : Passes registry more value' memory' called value'' memory'') :
      Passes registry (call :: more) value memory (.called call.name value call.args :: called)
        value'' memory''

namespace Engine

variable {σ : Type} (e : Engine σ)

/-- The calls that name a transform. -/
def known (calls : List Call) : List Call :=
  calls.filter fun call => e.registry.contains call.name

/-- The failures of the calls that name no transform. -/
def unknowns (p : Placeholder) (calls : List Call) : List Failure :=
  (calls.filter fun call => !e.registry.contains call.name).map fun call =>
    ⟨.unknownFunction call.name, p.key, p.path⟩

/-- The value that a chain starts from without strictness. -/
def start (metadata : Json) (p : Placeholder) : Text :=
  match metadata.resolve? p.path with
  | some found => found.text
  | none => p.fallback.getD e.options.fallbackValue

variable {e} {call : Call}

theorem known_cons_of_none (h : e.registry.find? call.name = none) (more : List Call) :
    e.known (call :: more) = e.known more := by
  rw [known, List.filter_cons_of_neg (by simp [Registry.contains, h]), known]

theorem known_cons_of_some {transform : Transform σ}
    (h : e.registry.find? call.name = some transform) (more : List Call) :
    e.known (call :: more) = call :: e.known more := by
  rw [known, List.filter_cons_of_pos (by simp [Registry.contains, h]), known]

theorem unknowns_cons_of_none (h : e.registry.find? call.name = none) (p : Placeholder)
    (more : List Call) :
    e.unknowns p (call :: more) = .of p (.unknownFunction call.name) :: e.unknowns p more := by
  rw [unknowns, List.filter_cons_of_pos (by simp [Registry.contains, h]), List.map_cons, unknowns]
  rfl

theorem unknowns_cons_of_some {transform : Transform σ}
    (h : e.registry.find? call.name = some transform) (p : Placeholder) (more : List Call) :
    e.unknowns p (call :: more) = e.unknowns p more := by
  rw [unknowns, List.filter_cons_of_neg (by simp [Registry.contains, h]), unknowns]

theorem mem_unknowns {p : Placeholder} {calls : List Call} {failure : Failure}
    (h : failure ∈ e.unknowns p calls) :
    ∃ call ∈ calls, failure = .of p (.unknownFunction call.name) := by
  obtain ⟨call, hcall, rfl⟩ := List.mem_map.mp h
  exact ⟨call, (List.mem_filter.mp hcall).1, rfl⟩

/-- The known calls of a chain pass, or they pass up to one that fails. -/
theorem passes_or_fails (calls : List Call) (value : Text) (memory : σ) :
    (∃ value' memory' called,
      Passes e.registry (e.known calls) value memory called value' memory') ∨
    ∃ before call after called value' memory' transform reason memory'',
      calls = before ++ call :: after ∧
      Passes e.registry (e.known before) value memory called value' memory' ∧
      e.registry.find? call.name = some transform ∧
      transform value' call.args memory' = (.error reason, memory'') := by
  induction calls generalizing value memory with
  | nil => exact Or.inl ⟨value, memory, [], .nil⟩
  | cons first rest ih =>
    cases hf : e.registry.find? first.name with
    | none =>
      rcases ih value memory with
        ⟨value', memory', called, h⟩ | ⟨before, call, after, called, value', memory', transform,
          reason, memory'', hcalls, h, hfound, hfails⟩
      · exact Or.inl ⟨value', memory', called, by rwa [known_cons_of_none hf]⟩
      · right
        refine ⟨first :: before, call, after, called, value', memory', transform, reason, memory'',
          ?_, ?_, hfound, hfails⟩
        · rw [hcalls, List.cons_append]
        · rwa [known_cons_of_none hf]
    | some found =>
      cases ht : found value first.args memory with
      | mk result memory₁ =>
        cases result with
        | error reason =>
          exact Or.inr ⟨[], first, rest, [], value, memory, found, reason, memory₁, rfl, .nil, hf,
            ht⟩
        | ok value₁ =>
          rcases ih value₁ memory₁ with
            ⟨value', memory', called, h⟩ | ⟨before, call, after, called, value', memory',
              transform, reason, memory'', hcalls, h, hfound, hfails⟩
          · left
            refine ⟨value', memory', .called first.name value first.args :: called, ?_⟩
            rw [known_cons_of_some hf]
            exact .cons hf ht h
          · right
            refine ⟨first :: before, call, after, .called first.name value first.args :: called,
              value', memory', transform, reason, memory'', ?_, ?_, hfound, hfails⟩
            · rw [hcalls, List.cons_append]
            · rw [known_cons_of_some hf]
              exact .cons hf ht h

/-! ## Reports -/

variable (e)

/-- What becomes known of failures: nothing, if nobody listens. -/
def heard (failures : List Failure) : List Failure :=
  if e.listener.isSome then failures else []

theorem heard_append (failures failures' : List Failure) :
    e.heard (failures ++ failures') = e.heard failures ++ e.heard failures' := by
  unfold heard
  split <;> rfl

theorem mem_of_mem_heard {failures : List Failure} {failure : Failure}
    (h : failure ∈ e.heard failures) : failure ∈ failures := by
  unfold heard at h
  split at h
  · exact h
  · cases h

theorem filter_report (failure : Failure) : (e.report failure).filter Event.isCall = [] := by
  unfold report
  split <;> rfl

theorem filterMap_report (failure : Failure) :
    (e.report failure).filterMap Event.failure? = e.heard [failure] := by
  unfold report heard
  split <;> rfl

/-! ## Chains -/

variable {e}

theorem applyCalls_congr {p p' : Placeholder} (h : ∀ cause, Failure.of p cause = .of p' cause)
    (calls : List Call) (value : Text) (memory : σ) :
    e.applyCalls p calls value memory = e.applyCalls p' calls value memory := by
  induction calls generalizing value memory with
  | nil => rfl
  | cons call more ih => simp only [applyCalls, h, ih]

section Lax

variable (hlax : e.options.strict = false)

include hlax

theorem applyCalls_lax_of_none (h : e.registry.find? call.name = none) (p : Placeholder)
    (more : List Call) (value : Text) (memory : σ) :
    e.applyCalls p (call :: more) value memory =
      (e.applyCalls p more value memory).after
        (e.report (.of p (.unknownFunction call.name))) := by
  rw [e.applyCalls_of_none h, if_neg (by rw [hlax]; exact Bool.false_ne_true)]

/-- Without its unknown calls a chain ends alike and calls the same transforms. -/
theorem applyCalls_known (p : Placeholder) (calls : List Call) (value : Text) (memory : σ) :
    (e.applyCalls p calls value memory).EndsLike (e.applyCalls p (e.known calls) value memory) ∧
      (e.applyCalls p calls value memory).called =
        (e.applyCalls p (e.known calls) value memory).called := by
  induction calls generalizing value memory with
  | nil => exact ⟨⟨rfl, rfl⟩, rfl⟩
  | cons call more ih =>
    cases hf : e.registry.find? call.name with
    | none =>
      rw [applyCalls_lax_of_none hlax hf, known_cons_of_none hf, Run.called_after, filter_report]
      exact ih value memory
    | some transform =>
      rw [known_cons_of_some hf]
      cases ht : transform value call.args memory with
      | mk result memory' =>
        cases result with
        | error reason =>
          rw [e.applyCalls_of_error hf ht, e.applyCalls_of_error hf ht]
          exact ⟨⟨rfl, rfl⟩, rfl⟩
        | ok value' =>
          rw [e.applyCalls_of_ok hf ht, e.applyCalls_of_ok hf ht, Run.called_after,
            Run.called_after]
          exact ⟨(ih value' memory').1, congrArg _ (ih value' memory').2⟩

/-- A chain goes on behind calls of which the known ones pass, with the value they lead to. -/
theorem applyCalls_passes {calls : List Call} {value value' : Text} {memory memory' : σ}
    {called : List Event} (h : Passes e.registry (e.known calls) value memory called value' memory')
    (p : Placeholder) (more : List Call) :
    ∃ events, e.applyCalls p (calls ++ more) value memory =
        (e.applyCalls p more value' memory').after events ∧
      events.filter Event.isCall = called ∧
      events.filterMap Event.failure? = e.heard (e.unknowns p calls) := by
  induction calls generalizing value memory called with
  | nil =>
    cases h
    refine ⟨[], rfl, rfl, ?_⟩
    unfold heard
    split <;> rfl
  | cons call rest ih =>
    cases hf : e.registry.find? call.name with
    | none =>
      rw [known_cons_of_none hf] at h
      obtain ⟨events, hrun, hcalled, hreports⟩ := ih h
      refine ⟨e.report (.of p (.unknownFunction call.name)) ++ events, ?_, ?_, ?_⟩
      · rw [List.cons_append, applyCalls_lax_of_none hlax hf, hrun, Run.after_after]
      · rw [List.filter_append, filter_report, hcalled, List.nil_append]
      · rw [List.filterMap_append, filterMap_report, hreports, ← heard_append,
          unknowns_cons_of_none hf, List.singleton_append]
    | some transform =>
      rw [known_cons_of_some hf] at h
      cases h with
      | cons found succeeds tail =>
        obtain ⟨events, hrun, hcalled, hreports⟩ := ih tail
        refine ⟨.called call.name value call.args :: events, ?_, ?_, ?_⟩
        · rw [List.cons_append, e.applyCalls_of_ok found succeeds, hrun, Run.after_after]
          rfl
        · rw [List.filter_cons_of_pos rfl, hcalled]
        · rw [unknowns_cons_of_some hf, ← hreports]
          rfl

/-! ## Values -/

theorem select_lax (metadata : Json) (p : Placeholder) :
    e.select metadata p = .ok (e.start metadata p) := by
  rw [select, start]
  cases hr : metadata.resolve? p.path with
  | some found => rfl
  | none =>
    cases hf : p.fallback with
    | some text => rfl
    | none => simp only [hlax, Bool.false_eq_true, if_false, Option.getD_none]

theorem evaluate_lax_eq (metadata : Json) (p : Placeholder) (memory : σ) :
    e.evaluate metadata p memory =
      e.applyCalls p p.calls (e.start metadata p) memory := by
  rw [evaluate, select_lax hlax]

theorem recover_lax_of_error {run : Run σ (Except Failure Text)} {failure : Failure}
    (h : run.result = .error failure) :
    e.recover run =
      ⟨.ok e.options.fallbackValue, run.events ++ e.report failure, run.memory⟩ := by
  rw [recover_of_error h, escalates_eq, hlax, Bool.false_and, Bool.false_and, if_neg]
  exact Bool.false_ne_true

theorem called_recover (run : Run σ (Except Failure Text)) :
    (e.recover run).called = run.called := by
  cases hr : run.result with
  | ok value => rw [recover_of_ok hr]
  | error failure =>
    rw [recover_lax_of_error hlax hr, Run.called, List.filter_append, filter_report,
      List.append_nil, Run.called]

/-- The unknown calls of a placeholder make no difference to its value, to the memory or to the
calls of transforms. -/
theorem value_known (metadata : Json) (p : Placeholder) (memory : σ) :
    (e.value metadata p memory).EndsLike
        (e.value metadata { p with calls := e.known p.calls } memory) ∧
      (e.value metadata p memory).called =
        (e.value metadata { p with calls := e.known p.calls } memory).called := by
  have hchain := applyCalls_known hlax p p.calls (e.start metadata p) memory
  -- a failure of the shorter placeholder has the same key and path
  have hsame : e.applyCalls p (e.known p.calls) (e.start metadata p) memory =
      e.applyCalls { p with calls := e.known p.calls } (e.known p.calls) (e.start metadata p)
        memory := by
    apply applyCalls_congr
    intro cause
    rfl
  rw [hsame] at hchain
  rw [value, value, evaluate_lax_eq hlax, evaluate_lax_eq hlax, called_recover hlax,
    called_recover hlax]
  exact ⟨recover_endsLike hchain.1 rfl fun _ _ => rfl, hchain.2⟩

theorem value_of_passes {metadata : Json} {p : Placeholder} {memory memory' : σ} {value : Text}
    {called : List Event}
    (h : Passes e.registry (e.known p.calls) (e.start metadata p) memory called value memory') :
    let run := e.value metadata p memory
    run.result = .ok value ∧ run.memory = memory' ∧ run.called = called ∧
      run.reports = e.heard (e.unknowns p p.calls) := by
  intro run
  obtain ⟨events, hrun, hcalled, hreports⟩ := applyCalls_passes hlax h p []
  rw [List.append_nil] at hrun
  have hvalue : run = (⟨.ok value, [], memory'⟩ : Run σ (Except Failure Text)).after events := by
    change e.recover (e.evaluate metadata p memory) = _
    rw [evaluate_lax_eq hlax, hrun]
    exact recover_of_ok rfl
  rw [hvalue]
  refine ⟨rfl, rfl, ?_, ?_⟩
  · rw [Run.called_after, hcalled]
    exact List.append_nil called
  · rw [Run.reports_after, hreports]
    exact List.append_nil _

theorem value_of_fails {metadata : Json} {p : Placeholder} {before after : List Call} {call : Call}
    {transform : Transform σ} {memory memory' memory'' : σ} {value reason : Text}
    {called : List Event} (hcalls : p.calls = before ++ call :: after)
    (h : Passes e.registry (e.known before) (e.start metadata p) memory called value memory')
    (hfound : e.registry.find? call.name = some transform)
    (hfails : transform value call.args memory' = (.error reason, memory'')) :
    let run := e.value metadata p memory
    run.result = .ok e.options.fallbackValue ∧ run.memory = memory'' ∧
      run.called = called ++ [.called call.name value call.args] ∧
      run.reports = e.heard (e.unknowns p before ++ [.of p (.transform call.name reason)]) := by
  intro run
  obtain ⟨events, hrun, hcalled, hreports⟩ := applyCalls_passes hlax h p (call :: after)
  rw [e.applyCalls_of_error hfound hfails] at hrun
  have hvalue : run = ⟨.ok e.options.fallbackValue,
      events ++ [.called call.name value call.args] ++
        e.report (.of p (.transform call.name reason)), memory''⟩ := by
    change e.recover (e.evaluate metadata p memory) = _
    rw [evaluate_lax_eq hlax, hcalls, hrun]
    exact recover_lax_of_error hlax rfl
  rw [hvalue]
  refine ⟨rfl, rfl, ?_, ?_⟩
  · rw [Run.called, List.filter_append, List.filter_append, filter_report, hcalled, List.append_nil]
    rfl
  · rw [Run.reports_eq, List.filterMap_append, List.filterMap_append, filterMap_report, hreports,
      heard_append]
    exact congrArg (· ++ _) (List.append_nil _)

/-- Without strictness, unknown calls are transparent. A placeholder gets the value that it gets
without them: that is where its known calls lead from the text it starts with, or the fallback value
as soon as one of these fails, and then no later one is called. A listener hears of the unknown ones
in front of the failing one, in order, and then of that one; or of all unknown ones, if none of the
known ones fails. -/
theorem value_lax (metadata : Json) (p : Placeholder) (memory : σ) :
    let run := e.value metadata p memory
    let run' := e.value metadata { p with calls := e.known p.calls } memory
    (run.result = run'.result ∧ run.memory = run'.memory ∧ run.called = run'.called) ∧
      ((∃ value,
        Passes e.registry (e.known p.calls) (e.start metadata p) memory run.called value
          run.memory ∧
        run.result = .ok value ∧ run.reports = e.heard (e.unknowns p p.calls)) ∨
      ∃ before call after called value memory' transform reason,
        p.calls = before ++ call :: after ∧
        Passes e.registry (e.known before) (e.start metadata p) memory called value memory' ∧
        e.registry.find? call.name = some transform ∧
        transform value call.args memory' = (.error reason, run.memory) ∧
        run.called = called ++ [.called call.name value call.args] ∧
        run.result = .ok e.options.fallbackValue ∧
        run.reports =
          e.heard (e.unknowns p before ++ [⟨.transform call.name reason, p.key, p.path⟩])) ∧
      ∀ failure ∈ run.reports, failure.key = p.key ∧ failure.path = p.path ∧
        ∃ call ∈ p.calls, failure.function? = some call.name := by
  intro run run'
  obtain ⟨⟨hresult, hmemory⟩, hcalled⟩ := value_known hlax metadata p memory
  refine ⟨⟨hresult, hmemory, hcalled⟩, ?_⟩
  rcases passes_or_fails (e := e) p.calls (e.start metadata p) memory with
    ⟨value, memory', called, h⟩ | ⟨before, call, after, called, value, memory', transform, reason,
      memory'', hcalls, h, hfound, hfails⟩
  · obtain ⟨hresult, hmemory, hcalled, hreports⟩ := value_of_passes hlax h
    refine ⟨Or.inl ⟨value, ?_, hresult, hreports⟩, ?_⟩
    · rwa [hcalled, hmemory]
    intro failure hfailure
    rw [hreports] at hfailure
    obtain ⟨call, hcall, rfl⟩ := mem_unknowns (e.mem_of_mem_heard hfailure)
    exact ⟨rfl, rfl, call, hcall, rfl⟩
  · obtain ⟨hresult, hmemory, hcalled, hreports⟩ := value_of_fails hlax hcalls h hfound hfails
    refine ⟨Or.inr ⟨before, call, after, called, value, memory', transform, reason, hcalls, h,
      hfound, ?_, hcalled, hresult, hreports⟩, ?_⟩
    · rwa [hmemory]
    intro failure hfailure
    rw [hreports] at hfailure
    rw [hcalls]
    rcases List.mem_append.mp (e.mem_of_mem_heard hfailure) with hunknown | hlast
    · obtain ⟨other, hother, rfl⟩ := mem_unknowns hunknown
      exact ⟨rfl, rfl, other, List.mem_append_left _ hother, rfl⟩
    · rw [List.mem_singleton.mp hlast]
      exact ⟨rfl, rfl, call, List.mem_append_right _ List.mem_cons_self, rfl⟩

end Lax

/-- Unknown calls stand in front of a call that counts its uses, between this and one that fails,
and behind that. -/
theorem value_around_unknowns :
    let e : Engine Nat :=
      { registry := [("count".toList, fun value _ n => (.ok (value ++ Nat.toDigits 10 n), n + 1)),
          ("fail".toList, fun _ _ n => (.error "no".toList, n + 10))]
        options := { fallbackValue := "none".toList }
        listener := some [] }
    let p : Placeholder :=
      { scope := some ['a'], key := ['k'], fallback := some ['x']
        calls := ["u", "count", "v", "fail", "w", "count"].map fun name => ⟨name.toList, []⟩ }
    let run := e.value .null p 5
    (e.options.strict = false ∧
      run.result = (e.value .null { p with calls := e.known p.calls } 5).result) ∧
      e.known p.calls =
        ["count", "fail", "count"].map (fun name => ⟨name.toList, []⟩) ∧
      run.result = .ok "none".toList ∧ run.memory = 16 ∧
      run.called = [.called "count".toList ['x'] [], .called "fail".toList "x5".toList []] ∧
      run.reports = [⟨.unknownFunction ['u'], ['k'], "a.k".toList⟩,
        ⟨.unknownFunction ['v'], ['k'], "a.k".toList⟩,
        ⟨.transform "fail".toList "no".toList, ['k'], "a.k".toList⟩] := by
  intro e p run
  obtain ⟨⟨hresult, -, -⟩, -, -⟩ := value_lax (e := e) rfl .null p 5
  exact ⟨⟨rfl, hresult⟩, by decide +kernel, by decide +kernel, by decide +kernel,
    by decide +kernel, by decide +kernel⟩

end Engine

end Stencil
