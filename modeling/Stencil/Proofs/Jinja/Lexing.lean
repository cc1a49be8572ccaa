import Stencil.Jinja.Conversion
import Stencil.Jinja.Lexeme
import Stencil.Proofs.Json.Escape
import Stencil.Proofs.Text.Parts
import Mathlib.Data.List.Forall2

/-!
# Lexemes of written expressions

What `Jinja.body` makes of the parts of an expression. `Lexes t ls` says that the text `t` gives the
lexemes `ls` wherever it stands in an expression, as long as no name goes on behind it. Parts are
put together by `Lexes.append`.

* `lexes_literal`: a string literal gives the text that was written as one.
* `lexes_path`, `lexes_filter`: dotted names, and filters with their arguments, which need not give
  their lexemes in front of anything but a comma or a closing bracket, `LexesArgument`.
-/

namespace Stencil.Jinja

open Json (Spelled escape pieceOf literal)

/-! ## String literals -/

theorem cutString?_cons (quote : Char) {c : Char} (hc : c ≠ '\\') (t : Text) :
    cutString? quote (c :: t) =
      if c = quote then some ([], t)
      else (cutString? quote t).map fun (inner, rest) => (c :: inner, rest) := by
  rw [cutString?]
  intro _ _ he
  exact absurd he hc

theorem stringPieces?_cons {c : Char} (hc : c ≠ '\\') (t : Text) :
    stringPieces? (c :: t) = (stringPieces? t).map (.char c :: ·) := by
  rw [stringPieces?, if_neg hc]
  · intro _ _ _ _ _ he
    exact absurd he hc
  · intro _ _ he
    exact absurd he hc

theorem ne_of_hexUnit? {x y : Char} {n : Nat} (h : Json.hexUnit? '0' '0' x y = some n) {d : Char}
    (hd : Json.hexValue? d = none) : x ≠ d ∧ y ≠ d := by
  constructor
  · rintro rfl
    simp [Json.hexUnit?, hd] at h
  · rintro rfl
    simp [Json.hexUnit?, hd] at h

section

variable {c : Char} {w : Text} {piece : Json.Piece}

/-- A written character does not end a string. -/
theorem cutString?_spelled (h : Spelled c w piece) (t : Text) :
    cutString? '"' (w ++ t) = (cutString? '"' t).map fun (inner, rest) => (w ++ inner, rest) := by
  cases h with
  | plain quote backslash =>
    rw [List.singleton_append, cutString?_cons _ backslash, if_neg quote]
    rfl
  | letter named => rfl
  | @digits x y value =>
    obtain ⟨hxq, hyq⟩ := ne_of_hexUnit? value (d := '"') rfl
    obtain ⟨hxb, hyb⟩ := ne_of_hexUnit? value (d := '\\') rfl
    have hy := cutString?_cons '"' hyb t
    have hx := cutString?_cons '"' hxb (y :: t)
    rw [if_neg hyq] at hy
    rw [if_neg hxq, hy] at hx
    simp only [List.cons_append, List.nil_append]
    rw [cutString?, cutString?_cons _ (by decide), cutString?_cons _ (by decide), hx]
    cases cutString? '"' t <;> rfl

/-- A written character is read as its piece. -/
theorem stringPieces?_spelled (h : Spelled c w piece) (t : Text) :
    stringPieces? (w ++ t) = (stringPieces? t).map (piece :: ·) := by
  cases h with
  | plain quote backslash => exact stringPieces?_cons backslash t
  | @letter e named =>
    have hu : e ≠ 'u' := by
      rintro rfl
      cases named
    have hq : e ≠ '\'' := by
      rintro rfl
      cases named
    simp only [List.cons_append, List.nil_append]
    rw [stringPieces?, if_neg hq, named]
    · cases stringPieces? t <;> rfl
    · intro _ _ _ _ _ he
      exact absurd he hu
  | @digits x y value =>
    simp only [List.cons_append, List.nil_append]
    rw [stringPieces?, value]
    cases stringPieces? t <;> rfl

end

theorem cutString?_escaped (t rest : Text) :
    cutString? '"' (t.flatMap escape ++ '"' :: rest) = some (t.flatMap escape, rest) := by
  induction t with
  | nil => rfl
  | cons c t ih =>
    rw [List.flatMap_cons, List.append_assoc, cutString?_spelled (Json.spelled_escape c), ih]
    rfl

theorem stringPieces?_escaped (t : Text) :
    stringPieces? (t.flatMap escape) = some (t.map pieceOf) := by
  induction t with
  | nil => rfl
  | cons c t ih =>
    rw [List.flatMap_cons, stringPieces?_spelled (Json.spelled_escape c), ih]
    rfl

/-- What was written as a literal is read back. -/
theorem stringLexeme_escaped (t rest : Text) :
    stringLexeme '"' (t.flatMap escape ++ '"' :: rest) = (.string t, rest) := by
  have hunescape : unescape? (t.flatMap escape) = some t := by
    rw [unescape?, stringPieces?_escaped, Option.bind_some, Json.decode?_pieces]
  simp only [stringLexeme, cutString?_escaped, hunescape]

/-! ## One lexeme at a time -/

theorem body_space {c : Char} (h : isSpace c = true) (depth : Nat) (t : Text) :
    body depth (c :: t) = body depth t := by
  rw [body, if_pos h]

theorem body_ending (t : Text) : body 0 ('\x7d' :: '\x7d' :: t) = ([], some (none, t)) := by
  rw [body]
  rfl

theorem body_lexeme {c : Char} {t rest : Text} {l : Lexeme} (hspace : isSpace c = false)
    (hend : ending? (c :: t) = none) (hl : lexeme c t = (l, rest)) (depth : Nat) :
    body depth (c :: t) =
      (l :: (body (l.depth depth) rest).1, (body (l.depth depth) rest).2) := by
  rw [body, if_neg (by simp [hspace]), hend]
  simp only [Option.filter_none, hl]

theorem ending?_eq_none {c : Char} (hc : c ∉ ['\x7d', '-', '+']) (t : Text) :
    ending? (c :: t) = none := by
  unfold ending?
  split
  all_goals first
    | rfl
    | (rename_i he
       obtain ⟨rfl, -⟩ := List.cons.inj he
       exact absurd hc (by decide))

/-- The characters that may stand between lexemes. -/
theorem isSpace_iff {c : Char} : isSpace c = true ↔ c ∈ [' ', '\t', '\r', '\n', '\x0c'] := by
  simp [isSpace, Char.isWhitespace, or_assoc]

/-! ## Names -/

/-- A name: a letter or an underscore, and then also digits. -/
def isIdentifier : Text → Bool
  | [] => false
  | c :: t => isNameStart c && t.all isNamePart

/-- No name goes on with this text. -/
def Stops (t : Text) : Prop := ∀ c ∈ t.head?, isNamePart c = false

theorem Stops.append {s t : Text} (hs : Stops s) (ht : Stops t) : Stops (s ++ t) := by
  cases s with
  | nil => exact ht
  | cons c s => exact hs

theorem isNamePart_of_isNameStart {c : Char} (h : isNameStart c = true) : isNamePart c = true := by
  simp only [isNameStart, Bool.or_eq_true] at h
  simp only [isNamePart, Char.isAlphanum, Bool.or_eq_true]
  rcases h with h | h
  · exact Or.inl (Or.inl h)
  · exact Or.inr h

theorem isNamePart_of_mem {name : Text} (h : isIdentifier name = true) {c : Char} (hc : c ∈ name) :
    isNamePart c = true := by
  cases name with
  | nil => cases h
  | cons d name =>
    simp only [isIdentifier, Bool.and_eq_true, List.all_eq_true] at h
    rcases List.mem_cons.mp hc with rfl | hc
    · exact isNamePart_of_isNameStart h.1
    · exact h.2 c hc

theorem notMem_of_isNameStart {c : Char} (h : isNameStart c = true) {signs : List Char}
    (hsigns : signs.any isNameStart = false) : c ∉ signs := by
  intro hmem
  rw [List.any_eq_false] at hsigns
  exact hsigns c hmem h

theorem isDigit_of_isNameStart {c : Char} (h : isNameStart c = true) : c.isDigit = false := by
  by_contra hdigit
  have hlt : c.toNat < 128 := by
    have hle := (Char.isDigit_iff_toNat.mp (by simpa using hdigit)).2
    have hnine : '9'.toNat = 57 := rfl
    omega
  exact hdigit (Text.of_ascii (p := fun c => isNameStart c = true → c.isDigit = false)
    (by decide +kernel) hlt h)

theorem longOperator?_eq_none {c : Char} (hc : c ∉ ['/', '*', '=', '!', '>', '<']) (t : Text) :
    t.head?.bind (longOperator? c) = none := by
  rw [Option.bind_eq_none_iff]
  intro d _
  unfold longOperator?
  split
  all_goals first | rfl | exact absurd hc (by decide)

theorem mark?_of_isNameStart {c : Char} (h : isNameStart c = true) : mark? c = none := by
  unfold mark?
  split
  all_goals first | rfl | exact absurd h (by decide)

theorem Stops.takeWhile {t : Text} (h : Stops t) : t.takeWhile isNamePart = [] := by
  cases t with
  | nil => rfl
  | cons c t => rw [List.takeWhile_cons_of_neg (by simp [h c rfl])]

theorem Stops.dropWhile {t : Text} (h : Stops t) : t.dropWhile isNamePart = t := by
  cases t with
  | nil => rfl
  | cons c t => rw [List.dropWhile_cons_of_neg (by simp [h c rfl])]

theorem lexeme_name {c : Char} {name rest : Text} (hc : isNameStart c = true)
    (hname : ∀ x ∈ name, isNamePart x = true) (hrest : Stops rest) :
    lexeme c (name ++ rest) = (.name (c :: name), rest) := by
  have hlong := longOperator?_eq_none (notMem_of_isNameStart hc (by decide)) (name ++ rest)
  have hquote : ¬ (c = '"' ∨ c = '\'') := by
    rintro (rfl | rfl)
    all_goals exact absurd hc (by decide)
  simp only [lexeme, hlong, mark?_of_isNameStart hc, if_neg hquote, isDigit_of_isNameStart hc,
    Bool.false_eq_true, if_false, hc, if_true]
  rw [List.takeWhile_append_of_pos hname, List.dropWhile_append_of_pos hname, hrest.takeWhile,
    hrest.dropWhile, List.append_nil]

/-! ## Parts of expressions -/

/-- The text gives these lexemes wherever it stands, unless a name goes on behind it. -/
def Lexes (t : Text) (ls : List Lexeme) : Prop :=
  ∀ depth rest, Stops rest →
    body depth (t ++ rest) = (ls ++ (body depth rest).1, (body depth rest).2)

theorem lexes_nil : Lexes [] [] := fun _ _ _ => rfl

theorem Lexes.append {s t : Text} {ls ms : List Lexeme} (hs : Lexes s ls) (ht : Lexes t ms)
    (hstops : Stops t) : Lexes (s ++ t) (ls ++ ms) := by
  intro depth rest hrest
  rw [List.append_assoc, hs depth _ (hstops.append hrest), ht depth rest hrest, List.append_assoc]

theorem Lexes.space {t : Text} {ls : List Lexeme} (h : Lexes t ls) : Lexes (' ' :: t) ls := by
  intro depth rest hrest
  rw [List.cons_append, body_space (by decide), h depth rest hrest]

/-- An argument ends in front of this text. -/
def Delimits (t : Text) : Prop := ∃ c more, t = c :: more ∧ c ∈ [',', ')']

theorem Delimits.stops {t : Text} (h : Delimits t) : Stops t := by
  obtain ⟨c, more, rfl, hc⟩ := h
  rintro d hd
  cases hd
  simp only [List.mem_cons, List.not_mem_nil, or_false] at hc
  rcases hc with rfl | rfl
  all_goals rfl

/-- The text gives these lexemes wherever an argument ends behind it. -/
def LexesArgument (t : Text) (ls : List Lexeme) : Prop :=
  ∀ depth rest, Delimits rest →
    body depth (t ++ rest) = (ls ++ (body depth rest).1, (body depth rest).2)

theorem Lexes.argument {t : Text} {ls : List Lexeme} (h : Lexes t ls) : LexesArgument t ls :=
  fun depth rest hrest => h depth rest hrest.stops

theorem lexes_name {name : Text} (h : isIdentifier name = true) : Lexes name [.name name] := by
  intro depth rest hrest
  cases name with
  | nil => cases h
  | cons c name =>
    simp only [isIdentifier, Bool.and_eq_true, List.all_eq_true] at h
    obtain ⟨hc, hname⟩ := h
    have hspace : isSpace c = false := by
      rw [Bool.eq_false_iff, Ne, isSpace_iff]
      exact notMem_of_isNameStart hc (by decide)
    have hend := ending?_eq_none (notMem_of_isNameStart hc (by decide)) (name ++ rest)
    exact body_lexeme hspace hend (lexeme_name hc hname hrest) depth

/-- A mark that no other lexeme begins with is a lexeme of its own. -/
theorem body_mark {c : Char} {l : Lexeme} (hc : c ∈ ['.', ',', '|', '(', ')'])
    (hmark : mark? c = some l) (depth : Nat) (t : Text) :
    body depth (c :: t) = (l :: (body (l.depth depth) t).1, (body (l.depth depth) t).2) := by
  have hplain : isSpace c = false ∧ c ∉ ['\x7d', '-', '+'] ∧
      c ∉ ['/', '*', '=', '!', '>', '<'] := by
    simp only [List.mem_cons, List.not_mem_nil, or_false] at hc
    rcases hc with rfl | rfl | rfl | rfl | rfl
    all_goals decide
  obtain ⟨hspace, hend, hlong⟩ := hplain
  apply body_lexeme hspace (ending?_eq_none hend t)
  simp only [lexeme, longOperator?_eq_none hlong, hmark]

theorem Lexes.mark {c : Char} {l : Lexeme} {t : Text} {ls : List Lexeme} (h : Lexes t ls)
    (hc : c ∈ ['.', ',', '|', '(', ')']) (hmark : mark? c = some l)
    (hl : ∀ depth, l.depth depth = depth) : Lexes (c :: t) (l :: ls) := by
  intro depth rest hrest
  rw [List.cons_append, body_mark hc hmark, hl, h depth rest hrest, List.cons_append]

/-- A string literal is one lexeme. -/
theorem lexes_literal (t : Text) : Lexes (literal t) [.string t] := by
  intro depth rest _
  have hl : lexeme '"' (t.flatMap escape ++ '"' :: rest) = (.string t, rest) := by
    simp only [lexeme, longOperator?_eq_none (c := '"') (by decide)]
    exact stringLexeme_escaped t rest
  have h := body_lexeme (by decide) (ending?_eq_none (by decide) _) hl depth
  simpa only [literal, List.cons_append, List.append_assoc, List.nil_append, Lexeme.depth] using h

theorem stops_flatMap {α : Type} {f : α → Text} {l : List α} (h : ∀ a ∈ l, Stops (f a)) :
    Stops (l.flatMap f) := by
  induction l with
  | nil =>
    intro c hc
    cases hc
  | cons a l ih =>
    rw [List.flatMap_cons]
    exact (h a List.mem_cons_self).append (ih fun b hb => h b (List.mem_cons_of_mem _ hb))

theorem lexes_flatMap {α : Type} {f : α → Text} {g : α → List Lexeme} {l : List α}
    (h : ∀ a ∈ l, Lexes (f a) (g a)) (hstops : ∀ a ∈ l, Stops (f a)) :
    Lexes (l.flatMap f) (l.flatMap g) := by
  induction l with
  | nil => exact lexes_nil
  | cons a l ih =>
    rw [List.flatMap_cons, List.flatMap_cons]
    have hmore : ∀ b ∈ l, Stops (f b) := fun b hb => hstops b (List.mem_cons_of_mem _ hb)
    exact (h a List.mem_cons_self).append
      (ih (fun b hb => h b (List.mem_cons_of_mem _ hb)) hmore) (stops_flatMap hmore)

/-! ## Paths and filters -/

/-- Names with dots between them. -/
def pathLexemes : List Text → List Lexeme
  | [] => []
  | first :: more => .name first :: more.flatMap fun name => [.dot, .name name]

theorem stops_cons {c : Char} (hc : isNamePart c = false) (t : Text) : Stops (c :: t) := by
  rintro d hd
  cases hd
  exact hc

theorem lexes_path {first : Text} {more : List Text}
    (h : ∀ name ∈ first :: more, isIdentifier name = true) :
    Lexes (Text.join ['.'] (first :: more)) (pathLexemes (first :: more)) := by
  rw [Text.join_cons]
  have hstops : ∀ name ∈ more, Stops (['.'] ++ name) := fun name _ => stops_cons (by decide) name
  apply (lexes_name (h first List.mem_cons_self)).append ?_ (stops_flatMap hstops)
  apply lexes_flatMap ?_ hstops
  intro name hname
  exact (lexes_name (h name (List.mem_cons_of_mem _ hname))).mark (by decide) rfl fun _ => rfl

/-- Arguments with commas between them. -/
def argumentLexemes : List (List Lexeme) → List Lexeme
  | [] => []
  | first :: more => first ++ more.flatMap (.comma :: ·)

/-- A filter with its arguments, behind a bar. -/
def filterLexemes (name : Text) (args : List (List Lexeme)) : List Lexeme :=
  .bar :: .name name ::
    if args = [] then [] else .opening .round :: argumentLexemes args ++ [.closing .round]

theorem lexesArgument_join {args : List Text} {lss : List (List Lexeme)}
    (h : List.Forall₂ LexesArgument args lss) :
    LexesArgument (Text.join ", ".toList args) (argumentLexemes lss) := by
  cases h with
  | nil => exact fun _ _ _ => rfl
  | @cons first ls more lss hfirst hmore =>
    intro depth rest hrest
    have hdelimits : ∀ args : List Text, Delimits (args.flatMap (", ".toList ++ ·) ++ rest) := by
      intro args
      cases args with
      | nil => exact hrest
      | cons arg args => exact ⟨',', _, rfl, by decide⟩
    have hcommas : body depth (more.flatMap (", ".toList ++ ·) ++ rest) =
        (lss.flatMap (.comma :: ·) ++ (body depth rest).1, (body depth rest).2) := by
      induction hmore with
      | nil => rfl
      | @cons arg ls more lss harg hmore ih =>
        have hcomma : ", ".toList ++ arg ++ more.flatMap (", ".toList ++ ·) ++ rest =
            ',' :: ' ' :: (arg ++ (more.flatMap (", ".toList ++ ·) ++ rest)) := by
          simp only [List.append_assoc]
          rfl
        rw [List.flatMap_cons, hcomma, body_mark (by decide) rfl, body_space (by decide),
          harg _ _ (hdelimits more)]
        simp only [Lexeme.depth, ih, List.flatMap_cons, List.cons_append, List.append_assoc]
    rw [Text.join_cons, List.append_assoc, hfirst depth _ (hdelimits more), hcommas,
      argumentLexemes, List.append_assoc]

/-- The brackets around arguments are where the arguments end. -/
theorem lexes_brackets {t : Text} {ls : List Lexeme} (h : LexesArgument t ls) :
    Lexes ('(' :: t ++ [')']) (.opening .round :: ls ++ [.closing .round]) := by
  intro depth rest _
  have hclose : Delimits (')' :: rest) := ⟨')', rest, rfl, by decide⟩
  rw [List.cons_append, List.cons_append, List.append_assoc, List.singleton_append,
    body_mark (by decide) rfl, h _ _ hclose, body_mark (by decide) rfl]
  simp only [Lexeme.depth, Nat.add_sub_cancel, List.cons_append, List.append_assoc,
    List.nil_append]

theorem lexes_filter {name : Text} (hname : isIdentifier name = true) {args : List Text}
    {lss : List (List Lexeme)} (h : List.Forall₂ LexesArgument args lss) :
    Lexes (filter name args) (filterLexemes name lss) := by
  have hargs : args = [] ↔ lss = [] := by
    rw [← List.length_eq_zero_iff, h.length_eq, List.length_eq_zero_iff]
  have hfront : ∀ {t : Text} {ls : List Lexeme}, Lexes t ls → Stops t →
      Lexes (" | ".toList ++ name ++ t) (.bar :: .name name :: ls) := by
    intro t ls ht hstops
    have h := ((lexes_name hname).append ht hstops).space
    exact (h.mark (c := '|') (l := .bar) (by decide) rfl fun _ => rfl).space
  unfold filter filterLexemes
  by_cases hnil : args = []
  · rw [if_pos hnil, if_pos (hargs.mp hnil)]
    exact hfront lexes_nil fun c hc => by cases hc
  · rw [if_neg hnil, if_neg (mt hargs.mpr hnil)]
    exact hfront (lexes_brackets (lexesArgument_join h)) (stops_cons (by decide) _)

end Stencil.Jinja
