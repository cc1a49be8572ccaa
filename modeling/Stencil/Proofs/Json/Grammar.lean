import Stencil.Proofs.Json.Document
import Mathlib.Data.List.Forall2

/-!
# Texts that write a value

Which JSON texts write a value, for the values that records of settings consist of: truth values,
texts, and objects of these. Blanks may stand around every value and every key, a string may be any
literal of its text, and the fields stand in the order of the object.

* `Stands`, `Inside`, `Writes`: the grammar of characters, strings and values.
* `Means`: a document as it is written, against the value that it writes.
* `Writes.ofText?`: a text that writes a value is read as a document that means this value.
* `writes_literal`, `writes_compact`: the compact form writes a value.
-/

namespace Stencil.Json

open Written (lexemes fieldLexemes)

/-! ## Strings -/

/-- How a character may stand inside a string literal, and the pieces that are read there: in one of
the forms that a printer uses, by its number, or by a surrogate pair. -/
inductive Stands (c : Char) : Text → List Piece → Prop
  | spelled {s : Text} {piece : Piece} (form : Spelled c s piece) : Stands c s [piece]
  | unit {w x y z : Char} (value : hexUnit? w x y z = some c.toNat) :
      Stands c ['\\', 'u', w, x, y, z] [.unit c.toNat]
  | pair {w x y z w' x' y' z' : Char} {high low : Nat} (first : hexUnit? w x y z = some high)
      (second : hexUnit? w' x' y' z' = some low) (isHigh : isHighUnit high = true)
      (isLow : isLowUnit low = true)
      (value : c.toNat = 0x10000 + (high - 0xD800) * 0x400 + (low - 0xDC00)) :
      Stands c ['\\', 'u', w, x, y, z, '\\', 'u', w', x', y', z'] [.unit high, .unit low]

/-- A text as it stands between the quotes of a literal. -/
inductive Inside : Text → Text → Prop
  | nil : Inside [] []
  | cons {c : Char} {s t rest : Text} {pieces : List Piece} (front : Stands c s pieces)
      (tail : Inside t rest) : Inside (c :: t) (s ++ rest)

theorem pieces?_unit {w x y z : Char} {n : Nat} (h : hexUnit? w x y z = some n) (t : Text) :
    pieces? ('\\' :: 'u' :: w :: x :: y :: z :: t) =
      (pieces? t).map fun (pieces, rest) => (.unit n :: pieces, rest) := by
  rw [pieces?, h]
  cases pieces? t <;> rfl

theorem pieces?_stands {c : Char} {s : Text} {pieces : List Piece} (h : Stands c s pieces)
    (t : Text) : pieces? (s ++ t) = (pieces? t).map fun (more, rest) => (pieces ++ more, rest) := by
  cases h with
  | spelled form => exact pieces?_spelled form t
  | unit value => exact pieces?_unit value t
  | pair first second =>
    simp only [List.cons_append, List.nil_append, pieces?_unit first, pieces?_unit second,
      Option.map_map]
    rfl

/-- A character is no unit of a surrogate pair. -/
theorem isUnit_toNat (c : Char) : isHighUnit c.toNat = false ∧ isLowUnit c.toNat = false := by
  have hvalid : c.toNat < 0xD800 ∨ 0xDFFF < c.toNat := c.valid.imp_right And.left
  simp only [isHighUnit, isLowUnit, Bool.and_eq_false_imp, decide_eq_true_eq,
    decide_eq_false_iff_not]
  omega

theorem decode?_unit (c : Char) (more : List Piece) :
    decode? (.unit c.toNat :: more) = (decode? more).map (c :: ·) := by
  -- a unit looks at the piece behind it, but only to complete a pair
  cases more with
  | nil => simp [decode?, isUnit_toNat]
  | cons next more => cases next <;> simp [decode?, isUnit_toNat]

theorem decode?_stands {c : Char} {s : Text} {pieces : List Piece} (h : Stands c s pieces)
    (more : List Piece) : decode? (pieces ++ more) = (decode? more).map (c :: ·) := by
  cases h with
  | spelled form =>
    cases form with
    | plain => rfl
    | letter => rfl
    | digits => exact decode?_unit c more
  | unit => exact decode?_unit c more
  | pair first second isHigh isLow value =>
    simp only [List.cons_append, List.nil_append, decode?, isHigh, isLow, if_true, ← value,
      Char.ofNat_toNat]

/-- What stands between the quotes is read up to the closing quote, and decodes to the text. -/
theorem Inside.exists_pieces {t s : Text} (h : Inside t s) :
    ∃ pieces, decode? pieces = some t ∧
      ∀ rest, pieces? (s ++ '"' :: rest) = some (pieces, rest) := by
  induction h with
  | nil => exact ⟨[], rfl, fun _ => rfl⟩
  | cons front tail ih =>
    obtain ⟨more, hdecode, hread⟩ := ih
    refine ⟨_ ++ more, by rw [decode?_stands front, hdecode, Option.map_some], ?_⟩
    intro rest
    rw [List.append_assoc, pieces?_stands front, hread, Option.map_some]

theorem inside_escape (t : Text) : Inside t (t.flatMap escape) := by
  induction t with
  | nil => exact .nil
  | cons c t ih => exact .cons (.spelled (spelled_escape c)) ih

/-! ## Values -/

mutual

/-- The text writes the value, perhaps with blanks around it. -/
inductive Writes : Json → Text → Prop
  | bool (b : Bool) : Writes (.bool b) (boolText b)
  | string {t s : Text} (inside : Inside t s) : Writes (.string t) ('"' :: (s ++ ['"']))
  | empty {s : Text} (blank : ∀ c ∈ s, isSpace c = true) :
      Writes (.object []) ('\x7b' :: (s ++ ['\x7d']))
  | object {fields : Entries Json} {s : Text} (inside : WritesFields fields s) :
      Writes (.object fields) ('\x7b' :: (s ++ ['\x7d']))
  | before {j : Json} {c : Char} {s : Text} (blank : isSpace c = true) (value : Writes j s) :
      Writes j (c :: s)
  | behind {j : Json} {c : Char} {s : Text} (value : Writes j s) (blank : isSpace c = true) :
      Writes j (s ++ [c])

/-- The text writes these fields, one at least, as they stand between the braces of an object. -/
inductive WritesFields : List (Text × Json) → Text → Prop
  | last {key k : Text} {value : Json} {v : Text} (left : Writes (.string key) k)
      (right : Writes value v) : WritesFields [(key, value)] (k ++ ':' :: v)
  | cons {key k : Text} {value : Json} {v : Text} {fields : List (Text × Json)} {s : Text}
      (left : Writes (.string key) k) (right : Writes value v) (more : WritesFields fields s) :
      WritesFields ((key, value) :: fields) (k ++ ':' :: (v ++ ',' :: s))

end

mutual

/-- The document means the value: its strings decode to the texts and keys of the value. -/
inductive Means : Written → Json → Prop
  | bool (b : Bool) : Means (.bool b) (.bool b)
  | string {pieces : List Piece} {t : Text} (decodes : decode? pieces = some t) :
      Means (.string pieces) (.string t)
  | object {ws : List (List Piece × Written)} {fields : Entries Json}
      (inside : MeansFields ws fields) : Means (.object ws) (.object fields)

/-- The same for fields, one by one. -/
inductive MeansFields : List (List Piece × Written) → List (Text × Json) → Prop
  | nil : MeansFields [] []
  | cons {pieces : List Piece} {key : Text} {w : Written} {j : Json}
      {ws : List (List Piece × Written)} {fields : List (Text × Json)}
      (left : decode? pieces = some key) (right : Means w j) (more : MeansFields ws fields) :
      MeansFields ((pieces, w) :: ws) ((key, j) :: fields)

end

theorem lexes_bool (b : Bool) : Lexes (boolText b) [.bool b] := by
  intro t
  cases b with
  | true => exact lexemes?_lexeme (by decide) rfl
  | false => exact lexemes?_lexeme (by decide) rfl

theorem lexes_blank {s : Text} (h : ∀ c ∈ s, isSpace c = true) : Lexes s [] := by
  induction s with
  | nil => exact lexes_nil
  | cons c s ih =>
    have hmore := ih fun d hd => h d (List.mem_cons_of_mem _ hd)
    exact (lexes_space (h c List.mem_cons_self)).append hmore

theorem Inside.lexes {t s : Text} (h : Inside t s) :
    ∃ pieces, Lexes ('"' :: (s ++ ['"'])) [.string pieces] ∧ decode? pieces = some t := by
  obtain ⟨pieces, hdecode, hread⟩ := h.exists_pieces
  refine ⟨pieces, ?_, hdecode⟩
  intro rest
  have hl : lexeme? ('"' :: (s ++ '"' :: rest)) = some (.string pieces, rest) := by
    simp only [lexeme?, hread, Option.map_some]
  have h := lexemes?_lexeme (by decide) hl
  simpa only [List.cons_append, List.append_assoc, List.nil_append] using h

mutual

/-- A text that writes a value has the lexemes of a document that means this value. -/
theorem Writes.lexes : ∀ {j : Json} {s : Text}, Writes j s →
    ∃ w, Lexes s (lexemes w) ∧ Means w j
  | _, _, .bool b => ⟨.bool b, lexes_bool b, .bool b⟩
  | _, _, .string inside => by
    obtain ⟨pieces, hlexes, hdecode⟩ := inside.lexes
    exact ⟨.string pieces, hlexes, .string hdecode⟩
  | _, _, .empty blank => by
    have hopen : Lexes ['\x7b'] [.openObject] := lexes_mark (by decide) fun _ => rfl
    have hclose : Lexes ['\x7d'] [.closeObject] := lexes_mark (by decide) fun _ => rfl
    exact ⟨.object [], hopen.append ((lexes_blank blank).append hclose), .object .nil⟩
  | _, _, .object inside => by
    obtain ⟨key, w, more, hlexes, hmeans⟩ := inside.lexes
    have hopen : Lexes ['\x7b'] [.openObject] := lexes_mark (by decide) fun _ => rfl
    have hclose : Lexes ['\x7d'] [.closeObject] := lexes_mark (by decide) fun _ => rfl
    have hall := hopen.append (hlexes.append hclose)
    refine ⟨.object ((key, w) :: more), ?_, .object hmeans⟩
    simpa only [lexemes, List.cons_append, List.nil_append] using hall
  | _, _, .before blank value => by
    obtain ⟨w, hlexes, hmeans⟩ := value.lexes
    exact ⟨w, (lexes_space blank).append hlexes, hmeans⟩
  | _, _, .behind value blank => by
    obtain ⟨w, hlexes, hmeans⟩ := value.lexes
    have hall := hlexes.append (lexes_space blank)
    rw [List.append_nil] at hall
    exact ⟨w, hall, hmeans⟩

theorem WritesFields.lexes : ∀ {fields : List (Text × Json)} {s : Text}, WritesFields fields s →
    ∃ pieces w more, Lexes s (.string pieces :: .colon :: (lexemes w ++ fieldLexemes more)) ∧
      MeansFields ((pieces, w) :: more) fields
  | _, _, .last left right => by
    obtain ⟨key, hkey, hleft⟩ := left.lexes
    obtain ⟨w, hvalue, hright⟩ := right.lexes
    have hcolon : Lexes [':'] [.colon] := lexes_mark (by decide) fun _ => rfl
    cases hleft with
    | @string pieces _ hdecode =>
      have hall := hkey.append (hcolon.append hvalue)
      refine ⟨pieces, w, [], ?_, .cons hdecode hright .nil⟩
      simpa only [lexemes, fieldLexemes, List.cons_append, List.nil_append, List.append_nil]
        using hall
  | _, _, .cons left right more => by
    obtain ⟨key, hkey, hleft⟩ := left.lexes
    obtain ⟨w, hvalue, hright⟩ := right.lexes
    obtain ⟨next, w', others, hmore, hmeans⟩ := more.lexes
    have hcolon : Lexes [':'] [.colon] := lexes_mark (by decide) fun _ => rfl
    have hcomma : Lexes [','] [.comma] := lexes_mark (by decide) fun _ => rfl
    cases hleft with
    | @string pieces _ hdecode =>
      have hall := hkey.append (hcolon.append (hvalue.append (hcomma.append hmore)))
      refine ⟨pieces, w, (next, w') :: others, ?_, .cons hdecode hright hmeans⟩
      simpa only [lexemes, fieldLexemes, List.cons_append, List.nil_append, List.append_assoc]
        using hall

end

/-- A text that writes a value is read as a document that means this value. -/
theorem Writes.ofText? {j : Json} {s : Text} (h : Writes j s) :
    ∃ w, Written.ofText? s = some w ∧ Means w j := by
  obtain ⟨w, hlexes, hmeans⟩ := h.lexes
  refine ⟨w, ?_, hmeans⟩
  rw [Written.ofText?, hlexes.lexemes?, Option.bind_some, Written.ofLexemes?_lexemes]

/-! ## The compact form -/

theorem writes_literal (t : Text) : Writes (.string t) (literal t) := .string (inside_escape t)

theorem writesFields_compact {key : Text} {value : Json} {more : List (Text × Json)}
    (h : ∀ entry ∈ (key, value) :: more, Writes entry.2 (compact entry.2)) :
    WritesFields ((key, value) :: more)
      (literal key ++ ':' :: (compact value ++ compactFields more)) := by
  induction more generalizing key value with
  | nil =>
    rw [compactFields, List.append_nil]
    exact .last (writes_literal key) (h _ List.mem_cons_self)
  | cons entry more ih =>
    obtain ⟨hvalue, hmore⟩ := List.forall_mem_cons.mp h
    exact .cons (writes_literal key) hvalue (ih hmore)

/-- The compact form writes an object, if it writes what is in its fields. -/
theorem writes_compact {fields : Entries Json}
    (h : ∀ entry ∈ fields, Writes entry.2 (compact entry.2)) :
    Writes (.object fields) (compact (.object fields)) := by
  cases fields with
  | nil =>
    have hblank : ∀ c ∈ ([] : Text), isSpace c = true := fun _ hc => by cases hc
    exact .empty hblank
  | cons entry more => exact .object (writesFields_compact h)

end Stencil.Json
