/-!
# Texts

A text is a list of characters. Positions are never stored: an operation that looks for something
returns what stands before it and what follows it. Byte offsets are a measure on texts, `Text.size`.

* `Text.cut?` finds the first occurrence of a mark, and `Text.cut?_eq_some` says that nothing is
  lost or changed by the cut.
* `Text.replaceFirst?` and `Text.replaceAll` put something else in its place.
* `Text.splitAt` cuts a list at every occurrence of a separator.
* `Text.trimBy` drops what is unwanted at both ends of a list.
-/

namespace Stencil

/-- A text is a list of Unicode characters. -/
abbrev Text := List Char

namespace Text

/-! ## Sizes -/

/-- The number of bytes that a text takes in UTF-8. -/
def size : Text → Nat
  | [] => 0
  | c :: t => c.utf8Size + size t

@[simp] theorem size_nil : size [] = 0 := rfl

@[simp] theorem size_cons (c : Char) (t : Text) : size (c :: t) = c.utf8Size + size t := rfl

@[simp] theorem size_append (s t : Text) : size (s ++ t) = size s + size t := by
  induction s with
  | nil => simp
  | cons c s ih => simp [ih, Nat.add_assoc]

/-! ## Cutting at a mark -/

/-- What follows `mark` at the front of a text, if it stands there. -/
def after? : Text → Text → Option Text
  | [], t => some t
  | _ :: _, [] => none
  | m :: mark, c :: t => if m = c then after? mark t else none

theorem eq_of_after? {mark t rest : Text} (h : after? mark t = some rest) : t = mark ++ rest := by
  induction mark generalizing t with
  | nil =>
    cases h
    rfl
  | cons m mark ih =>
    cases t with
    | nil => cases h
    | cons c t =>
      simp only [after?] at h
      split at h
      · rename_i hm
        rw [ih h, hm]
        rfl
      · cases h

/-- Cuts a text at the first occurrence of `mark`: what stands before it and what follows it. -/
def cut? (mark : Text) : Text → Option (Text × Text)
  | [] => if mark.isEmpty then some ([], []) else none
  | c :: t =>
    match after? mark (c :: t) with
    | some after => some ([], after)
    | none => (cut? mark t).map fun (before, after) => (c :: before, after)

/-- Nothing is lost: the two sides of a cut surround the mark. -/
theorem cut?_eq_some {mark t before after : Text} (h : cut? mark t = some (before, after)) :
    t = before ++ mark ++ after := by
  induction t generalizing before with
  | nil =>
    simp only [cut?] at h
    split at h
    · rename_i hm
      obtain rfl := List.isEmpty_iff.mp hm
      cases h
      rfl
    · cases h
  | cons c t ih =>
    simp only [cut?] at h
    split at h
    · rename_i rest hp
      cases h
      simpa using eq_of_after? hp
    · obtain ⟨⟨b, a⟩, hc, he⟩ := Option.map_eq_some_iff.mp h
      cases he
      simpa using ih hc

theorem cut?_length {mark t before after : Text} (h : cut? mark t = some (before, after)) :
    before.length + mark.length + after.length = t.length := by
  simp [cut?_eq_some h, Nat.add_assoc]

/-- Puts `new` in the place of the first occurrence of `mark`, if there is one. -/
def replaceFirst? (mark new t : Text) : Option Text :=
  (cut? mark t).map fun (before, after) => before ++ new ++ after

/-- Puts `new` in the place of every occurrence of `mark`, found from left to right. An empty mark
occurs before every character and at the end. -/
def replaceAll (mark new t : Text) : Text :=
  if mark.isEmpty then new ++ t.flatMap (· :: new)
  else
    match _h : cut? mark t with
    | none => t
    | some (before, after) => before ++ new ++ replaceAll mark new after
termination_by t.length
decreasing_by
  rename_i hm
  have hlen := cut?_length _h
  have : mark.length ≠ 0 := by simpa using hm
  omega

/-! ## Cutting at separators -/

/-- Cuts a list at every occurrence of `sep`. There is always one piece more than there are cuts. -/
def splitAt {α : Type} [DecidableEq α] (sep : α) : List α → List (List α)
  | [] => [[]]
  | c :: t =>
    if c = sep then [] :: splitAt sep t
    else
      match splitAt sep t with
      | [] => [[c]]
      | piece :: more => (c :: piece) :: more

theorem splitAt_ne_nil {α : Type} [DecidableEq α] (sep : α) (t : List α) : splitAt sep t ≠ [] := by
  cases t with
  | nil => simp [splitAt]
  | cons c t =>
    simp only [splitAt]
    split
    · simp
    · split <;> simp

/-- Joins pieces with `sep` between them. -/
def join (sep : Text) : List Text → Text
  | [] => []
  | [piece] => piece
  | piece :: more => piece ++ sep ++ join sep more

/-! ## Trimming -/

/-- Drops the longest runs of elements with property `p` at both ends. -/
def trimBy {α : Type} (p : α → Bool) (l : List α) : List α :=
  ((l.dropWhile p).reverse.dropWhile p).reverse

end Text

end Stencil
