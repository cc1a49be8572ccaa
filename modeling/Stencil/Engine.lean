import Stencil.Failure
import Stencil.Json.Path
import Stencil.Json.Printer
import Stencil.Options
import Stencil.Registry
import Stencil.Template

/-!
# Rendering

An engine renders templates against metadata. Each placeholder gets a value in three steps: the
value at its path, or else its fallback text, or else the fallback value of the options is selected;
the calls of its chain are applied to it; and a failure on the way is recovered from, if it may be.
Placeholders with the same source text share one value.

All functions return a `Run`: a result together with the calls and the reports that led to it, in
order, and the memory of the transforms afterwards.

* `Engine.applyCalls` follows a chain, `Engine.evaluate` gives a placeholder its value, and
  `Engine.recover` deals with a failure.
* `Engine.renderTokens` and `Engine.render` put the values in their places.
-/

namespace Stencil

/-! ## Runs -/

/-- Something that happens while a template is rendered: a transform is called, or a failure is
reported. -/
inductive Event where
  | called (name input : Text) (args : List Text)
  | reported (failure : Failure)
  deriving DecidableEq

/-- A result, the events that led to it, and the memory of the transforms afterwards. -/
structure Run (σ α : Type) where
  result : α
  events : List Event
  memory : σ

namespace Run

variable {σ α : Type}

/-- The same run with earlier events in front. -/
def after (events : List Event) (run : Run σ α) : Run σ α :=
  { run with events := events ++ run.events }

/-- The failures that were reported, in order. -/
def reports (run : Run σ α) : List Failure :=
  run.events.filterMap fun event =>
    match event with
    | .called .. => none
    | .reported failure => some failure

end Run

/-! ## Engines -/

/-- Transforms, options, and the label of the listener that failures are reported to, if there is
one. -/
structure Engine (σ : Type) where
  registry : Registry (Transform σ) := .standard
  options : Options := {}
  listener : Option Text := none

namespace Engine

variable {σ : Type}

/-- An engine with the standard transforms and the given options, unless a delimiter is empty. -/
def withOptions (options : Options) : Except ConfigError (Engine σ) :=
  options.validate.map fun options => { options := options }

/-- Scans a text with the delimiters of the engine. -/
def parse (e : Engine σ) (source : Text) : Template := .parse e.options.wrapper source

/-- The engine as it is described to a person. -/
def description (e : Engine σ) : Text :=
  "Engine \x7b registry: ".toList ++ e.registry.description ++ ", options: ".toList ++
    e.options.description ++ ", on_error: ".toList ++ Json.boolText e.listener.isSome ++
    " \x7d".toList

/-! ## Values of placeholders -/

/-- The events of a report: none without a listener. -/
def report (e : Engine σ) (failure : Failure) : List Event :=
  if e.listener.isSome then [.reported failure] else []

/-- The value that a chain starts from. -/
def select (e : Engine σ) (metadata : Json) (p : Placeholder) : Except Failure Text :=
  match metadata.resolve? p.path with
  | some value => .ok value.text
  | none =>
    match p.fallback with
    | some text => .ok text
    | none => if e.options.strict then .error (.of p .missingKey) else .ok e.options.fallbackValue

/-- Applies calls to a value, one after the other. A call that names no transform is a failure in
strict mode; else it is reported and left out. -/
def applyCalls (e : Engine σ) (p : Placeholder) :
    List Call → Text → σ → Run σ (Except Failure Text)
  | [], value, memory => ⟨.ok value, [], memory⟩
  | call :: more, value, memory =>
    match e.registry.find? call.name with
    | none =>
      let failure := Failure.of p (.unknownFunction call.name)
      if e.options.strict then ⟨.error failure, [], memory⟩
      else (e.applyCalls p more value memory).after (e.report failure)
    | some transform =>
      let event := Event.called call.name value call.args
      match transform value call.args memory with
      | (.error reason, memory) =>
        ⟨.error (.of p (.transform call.name reason)), [event], memory⟩
      | (.ok value, memory) => (e.applyCalls p more value memory).after [event]

/-- The value of a placeholder, or what is wrong with it. -/
def evaluate (e : Engine σ) (metadata : Json) (p : Placeholder) (memory : σ) :
    Run σ (Except Failure Text) :=
  match e.select metadata p with
  | .error failure => ⟨.error failure, [], memory⟩
  | .ok value => e.applyCalls p p.calls value memory

/-- Does this failure end the rendering? Only in strict mode, only if nobody listens, and never the
failure of a transform. -/
def escalates (e : Engine σ) (failure : Failure) : Bool :=
  e.options.strict && e.listener.isNone &&
    match failure.cause with
    | .missingKey => true
    | .unknownFunction _ => true
    | .transform .. => false

/-- Puts the fallback value in the place of a failure and reports it, unless it escalates. -/
def recover (e : Engine σ) (run : Run σ (Except Failure Text)) : Run σ (Except Failure Text) :=
  match run.result with
  | .ok _ => run
  | .error failure =>
    if e.escalates failure then run
    else ⟨.ok e.options.fallbackValue, run.events ++ e.report failure, run.memory⟩

/-- The value that is put in the place of a placeholder. -/
def value (e : Engine σ) (metadata : Json) (p : Placeholder) (memory : σ) :
    Run σ (Except Failure Text) :=
  e.recover (e.evaluate metadata p memory)

/-! ## Templates -/

/-- Puts the values of tokens in their places in a text. `known` has the values of earlier tokens
under their source texts. -/
def renderTokens (e : Engine σ) (metadata : Json) :
    List Token → Entries Text → Text → σ → Run σ (Except Failure Text)
  | [], _, t, memory => ⟨.ok t, [], memory⟩
  | token :: more, known, t, memory =>
    match known.get? token.raw with
    | some value =>
      e.renderTokens metadata more known (Template.substitute token.raw value t) memory
    | none =>
      let run := e.value metadata token.toPlaceholder memory
      match run.result with
      | .error _ => run
      | .ok value =>
        (e.renderTokens metadata more (known.insert token.raw value)
          (Template.substitute token.raw value t) run.memory).after run.events

/-- Renders a template against metadata. -/
def render (e : Engine σ) (template : Template) (metadata : Json) (memory : σ) :
    Run σ (Except Failure Text) :=
  e.renderTokens metadata template.tokens [] template.source memory

end Engine

end Stencil
