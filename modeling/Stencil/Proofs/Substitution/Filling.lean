import Stencil.Template
import Mathlib.Data.List.Basic

/-!
# Filling in values

Replacing the tokens of a template has two sides: the values that are given for the tokens, and the
text that arises when they are put in. `Template.answers` is the first side and `Template.fill` the
second; `Template.replaceTokens_eq` says that a replacement is the one after the other.
-/

namespace Stencil.Template

/-! ## Putting values in -/

/-- Puts values in the places of tokens, one after the other. Each goes to the first place where the
source text of its token still stands. -/
def fill (places : List (Token × Text)) (t : Text) : Text :=
  places.foldl (fun t place => substitute place.1.raw place.2 t) t

@[simp] theorem fill_nil (t : Text) : fill [] t = t := rfl

@[simp] theorem fill_cons (token : Token) (value : Text) (places : List (Token × Text)) (t : Text) :
    fill ((token, value) :: places) t = fill places (substitute token.raw value t) := rfl

/-- The template with values in the places of its tokens. -/
def filled (template : Template) (values : List Text) : Text :=
  fill (template.tokens.zip values) template.source

/-- The text just before token `k` is replaced, or the whole result if there is no such token. -/
def working (template : Template) (values : List Text) (k : Nat) : Text :=
  fill ((template.tokens.zip values).take k) template.source

theorem working_length (template : Template) (values : List Text) :
    template.working values template.tokens.length = template.filled values := by
  have hlen : (template.tokens.zip values).length ≤ template.tokens.length := by
    rw [List.length_zip]
    exact Nat.min_le_left _ _
  rw [working, filled, List.take_of_length_le hlen]

/-! ## The values that are given -/

variable {σ : Type} (replace : Token → σ → Text × σ)

/-- The values that `replace` gives when it is called once for each token, in order. -/
def answers : List Token → σ → List Text × σ
  | [], s => ([], s)
  | token :: more, s =>
    let (value, s) := replace token s
    let (values, s) := answers more s
    (value :: values, s)

@[simp] theorem length_answers (tokens : List Token) (s : σ) :
    (answers replace tokens s).1.length = tokens.length := by
  induction tokens generalizing s with
  | nil => rfl
  | cons token more ih => simp only [answers, List.length_cons, ih]

theorem answers_take (k : Nat) (tokens : List Token) (s : σ) :
    (answers replace (tokens.take k) s).1 = (answers replace tokens s).1.take k := by
  induction tokens generalizing k s with
  | nil => simp only [List.take_nil, answers]
  | cons token more ih =>
    cases k with
    | zero => rfl
    | succ k => simp only [List.take_succ_cons, answers, ih]

/-- The same replacement, which also notes each token it is asked for and its answer. -/
def noted (token : Token) (state : σ × List (Token × Text)) :
    Text × σ × List (Token × Text) :=
  let (value, s) := replace token state.1
  (value, s, state.2 ++ [(token, value)])

/-- The calls are one for each token, in order. -/
theorem answers_noted (tokens : List Token) (s : σ) (notes : List (Token × Text)) :
    answers (noted replace) tokens (s, notes) = ((answers replace tokens s).1,
      (answers replace tokens s).2, notes ++ tokens.zip (answers replace tokens s).1) := by
  induction tokens generalizing s notes with
  | nil => simp only [answers, List.zip_nil_left, List.append_nil]
  | cons token more ih =>
    simp only [answers, noted, ih, List.zip_cons_cons, List.append_assoc, List.cons_append,
      List.nil_append]

theorem replaceTokens_eq (tokens : List Token) (t : Text) (s : σ) :
    replaceTokens replace tokens t s =
      (fill (tokens.zip (answers replace tokens s).1) t, (answers replace tokens s).2) := by
  induction tokens generalizing t s with
  | nil => rfl
  | cons token more ih => simp only [replaceTokens, answers, List.zip_cons_cons, fill_cons, ih]

theorem replaceEach_eq (template : Template) (s : σ) :
    template.replaceEach replace s = (template.filled (answers replace template.tokens s).1,
      (answers replace template.tokens s).2) :=
  replaceTokens_eq replace template.tokens template.source s

theorem answers_map (f : Token → Text) (tokens : List Token) :
    (answers (fun token (_ : Unit) => (f token, ())) tokens ()).1 = tokens.map f := by
  induction tokens with
  | nil => rfl
  | cons token more ih => simp only [answers, ih, List.map_cons]

theorem map_eq (template : Template) (f : Token → Text) :
    template.map f = template.filled (template.tokens.map f) := by
  rw [map, replaceEach_eq, answers_map]

/-- Replacing the first tokens only gives the text just before the next one is replaced. -/
theorem replaceTokens_take (template : Template) (k : Nat) (s : σ) :
    (replaceTokens replace (template.tokens.take k) template.source s).1 =
      template.working (answers replace template.tokens s).1 k := by
  rw [replaceTokens_eq, answers_take, working, List.zip, List.take_zipWith]

end Stencil.Template
