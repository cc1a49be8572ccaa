import Stencil.Proofs.Scan.Finding

/-!
# Drafts

A draft is a template before it is written: texts, and between them slots that say what is to be
looked up. Writing a slot leaves some freedom, such as where an argument is quoted and how much
space stands around it, so a slot says how it is written as well as what it means.

* `Segment`, `Argument`, `Call`, `Slot` are the pieces. Each has a `text`, which is how it is
  written, and a meaning: `value`, `toCall` or `content`.
* `Draft.text` is the template and `Draft.tokens` are the placeholders that were written into it.
* The predicates `Valid` say which pieces can be told apart again. All of them can be decided.
-/

namespace Stencil

namespace Draft

open Text

/-! ## Arguments -/

/-- A part of an argument: a text between two quotes, or a run of characters outside quotes. -/
inductive Segment where
  | quoted (quote : Char) (inner : Text)
  | plain (run : Text)
  deriving DecidableEq

/-- The segment as it is written. -/
def Segment.text : Segment → Text
  | .quoted quote inner => quote :: (inner ++ [quote])
  | .plain run => run

/-- What the segment contributes to the argument. -/
def Segment.value : Segment → Text
  | .quoted _ inner => inner
  | .plain run => run

/-- Every quote `q` in the text has a backslash right before it, and the text does not end in a
backslash. -/
def Escaped (q : Char) (t : Text) : Prop :=
  (∀ p, p ++ [q] <+: t → p.getLast? = some '\\') ∧ t.getLast? ≠ some '\\'

instance (q : Char) (t : Text) : Decidable (Escaped q t) :=
  decidable_of_iff ((∀ p ∈ t.inits, p ++ [q] <+: t → p.getLast? = some '\\') ∧
      t.getLast? ≠ some '\\') (by
    refine and_congr_left fun _ => ⟨fun h p hp => ?_, fun h p _ hp => h p hp⟩
    exact h p ((List.mem_inits _ _).mpr ((List.prefix_append _ _).trans hp)) hp)

/-- May this character stand in a run outside quotes? -/
def isPlain (c : Char) : Bool :=
  !Arguments.isQuote c && c != ',' && c != '(' && c != ')' && !isBlank c

/-- A quoted text is escaped; a run is not empty and has only plain characters. -/
def Segment.Valid : Segment → Prop
  | .quoted quote inner => Arguments.isQuote quote = true ∧ Escaped quote inner
  | .plain run => run ≠ [] ∧ ∀ c ∈ run, isPlain c = true

instance : DecidablePred Segment.Valid
  | .quoted _ _ => inferInstanceAs (Decidable (_ ∧ _))
  | .plain run => decidable_of_iff (run ≠ [] ∧ run.all isPlain = true)
    (and_congr_right fun _ => List.all_eq_true)

/-- An argument: segments, and the blank characters around them. -/
structure Argument where
  before : Text
  segments : List Segment
  after : Text
  deriving DecidableEq

def Argument.text (a : Argument) : Text := a.before ++ a.segments.flatMap Segment.text ++ a.after

def Argument.value (a : Argument) : Text := a.segments.flatMap Segment.value

/-- There is a segment, all segments are valid, and what stands around them is blank. -/
structure Argument.Valid (a : Argument) : Prop where
  before : ∀ c ∈ a.before, isBlank c = true
  segments_ne_nil : a.segments ≠ []
  segments : ∀ s ∈ a.segments, s.Valid
  after : ∀ c ∈ a.after, isBlank c = true

instance (a : Argument) : Decidable a.Valid :=
  decidable_of_iff (a.before.all isBlank = true ∧ a.segments ≠ [] ∧
      (∀ s ∈ a.segments, s.Valid) ∧ a.after.all isBlank = true) (by
    rw [List.all_eq_true, List.all_eq_true]
    exact ⟨fun ⟨h₁, h₂, h₃, h₄⟩ => ⟨h₁, h₂, h₃, h₄⟩, fun ⟨h₁, h₂, h₃, h₄⟩ => ⟨h₁, h₂, h₃, h₄⟩⟩)

/-! ## Calls -/

/-- A call: a name, and arguments if there are any. -/
structure Call where
  name : Text
  args : List Argument
  deriving DecidableEq

def Call.text (c : Call) : Text :=
  if c.args = [] then c.name
  else c.name ++ '(' :: (join [','] (c.args.map Argument.text) ++ [')'])

def Call.toCall (c : Call) : Stencil.Call := ⟨c.name, c.args.map Argument.value⟩

/-- May this character stand in a name behind the first one? -/
def isNameRest (c : Char) : Bool := c.isAlphanum || c == '_' || c == '$'

/-- An ASCII name: a letter, an underscore or a dollar sign, and then perhaps digits too. -/
def isName : Text → Bool
  | [] => false
  | c :: rest => (c.isAlpha || c == '_' || c == '$') && rest.all isNameRest

structure Call.Valid (c : Call) : Prop where
  name : isName c.name = true
  args : ∀ a ∈ c.args, a.Valid

instance (c : Call) : Decidable c.Valid :=
  decidable_of_iff (isName c.name = true ∧ ∀ a ∈ c.args, a.Valid)
    ⟨fun ⟨h₁, h₂⟩ => ⟨h₁, h₂⟩, fun ⟨h₁, h₂⟩ => ⟨h₁, h₂⟩⟩

/-! ## Slots -/

abbrev usual : Delimiters := {}

/-- A placeholder to be written. -/
structure Slot where
  scope : Option Text
  key : Text
  calls : List Call
  fallback : Option Text
  deriving DecidableEq

/-- What stands between the opener and the closer. -/
def Slot.body (s : Slot) : Text :=
  ' ' :: (s.scope.getD [] ++ ':' :: s.key ++
    s.calls.flatMap (fun c => Chain.arrow ++ c.text) ++ [' '])

/-- What stands behind the closer: the fallback text in its marks, if there is one. -/
def Slot.suffix (s : Slot) : Text :=
  match s.fallback with
  | none => []
  | some text => usual.fallbackOpener ++ text ++ usual.fallbackCloser

def Slot.text (s : Slot) : Text := usual.opener ++ s.body ++ usual.closer ++ s.suffix

def Slot.content (s : Slot) : Placeholder := ⟨s.scope, s.key, s.calls.map Call.toCall, s.fallback⟩

/-- The pieces of a slot do not hold what stands between them. -/
structure Slot.Valid (s : Slot) : Prop where
  scope : ∀ t ∈ s.scope, t ≠ [] ∧ trim t = t ∧ ':' ∉ t ∧ ¬ Chain.arrow <:+: t
  key : trim s.key = s.key ∧ ¬ Chain.arrow <:+: s.key
  calls : ∀ c ∈ s.calls, c.Valid
  body : ¬ usual.closer <:+: s.body
  fallback : ∀ t ∈ s.fallback, '\n' ∉ t ∧ ¬ usual.fallbackCloser <:+: t

instance (s : Slot) : Decidable s.Valid :=
  decidable_of_iff ((∀ t ∈ s.scope, t ≠ [] ∧ trim t = t ∧ ':' ∉ t ∧ ¬ Chain.arrow <:+: t) ∧
      (trim s.key = s.key ∧ ¬ Chain.arrow <:+: s.key) ∧ (∀ c ∈ s.calls, c.Valid) ∧
      ¬ usual.closer <:+: s.body ∧ ∀ t ∈ s.fallback, '\n' ∉ t ∧ ¬ usual.fallbackCloser <:+: t)
    ⟨fun ⟨h₁, h₂, h₃, h₄, h₅⟩ => ⟨h₁, h₂, h₃, h₄, h₅⟩,
      fun ⟨h₁, h₂, h₃, h₄, h₅⟩ => ⟨h₁, h₂, h₃, h₄, h₅⟩⟩

/-! ## Drafts -/

/-- Slots with the texts behind them, as they are written. -/
def partsText (parts : List (Slot × Text)) : Text := parts.flatMap fun part => part.1.text ++ part.2

/-- The placeholders of slots that are written from byte `offset` on. -/
def partsTokens (offset : Nat) : List (Slot × Text) → List Token
  | [] => []
  | (slot, after) :: more =>
    let stop := offset + size slot.text
    ⟨slot.content, slot.text, offset, stop⟩ :: partsTokens (stop + size after) more

/-- No text holds an opener, and what follows a slot without a fallback does not begin with one. -/
def Separate : List (Slot × Text) → Prop
  | [] => True
  | (slot, after) :: more =>
    slot.Valid ∧ ¬ usual.opener <:+: after ∧
      (slot.fallback = none → ¬ ∃ text, FallbackAt usual (after ++ partsText more) text) ∧
      Separate more

instance decidableSeparate : DecidablePred Separate
  | [] => inferInstanceAs (Decidable True)
  | (_, _) :: more =>
    have : Decidable (Separate more) := decidableSeparate more
    inferInstanceAs (Decidable (_ ∧ _ ∧ (_ → _) ∧ _))

end Draft

/-- A template to be written: a text, and slots with the texts behind them. -/
structure Draft where
  head : Text
  parts : List (Draft.Slot × Text)
  deriving DecidableEq

namespace Draft

/-- The template. -/
def text (d : Draft) : Text := d.head ++ partsText d.parts

/-- The placeholders that were written into the template. -/
def tokens (d : Draft) : List Token := partsTokens (Text.size d.head) d.parts

/-- The pieces of a draft can be told apart again. -/
def Valid (d : Draft) : Prop := ¬ usual.opener <:+: d.head ∧ Separate d.parts

instance (d : Draft) : Decidable d.Valid := inferInstanceAs (Decidable (_ ∧ _))

end Draft

end Stencil
