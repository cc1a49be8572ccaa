import Stencil.Json.Reader
import Stencil.Proofs.Json.Escape

/-!
# Documents and their lexemes

`Written.lexemes` is the sequence of lexemes that a document is written in, and the stack of open
arrays and objects puts the document together again. A text with these lexemes is such a document:
`Lexes s ls` says that `s` gives the lexemes `ls`, however the text goes on.

* `Written.ofLexemes?_lexemes`: the document is read back from its lexemes.
* `lexes_literal`, `lexes_mark`, `lexes_newLine`: the lexemes of printed parts.
-/

namespace Stencil.Json

/-! ## Documents from their lexemes -/

namespace Written

mutual

/-- The lexemes of a document. -/
def lexemes : Written → List Lexeme
  | .null => [.null]
  | .bool b => [.bool b]
  | .string pieces => [.string pieces]
  | .number n => [.number n]
  | .array [] => [.openArray, .closeArray]
  | .array (item :: more) => .openArray :: (lexemes item ++ itemLexemes more) ++ [.closeArray]
  | .object [] => [.openObject, .closeObject]
  | .object ((key, w) :: more) =>
    .openObject :: .string key :: .colon :: (lexemes w ++ fieldLexemes more) ++ [.closeObject]

/-- Further items, each behind a comma. -/
def itemLexemes : List Written → List Lexeme
  | [] => []
  | item :: more => .comma :: (lexemes item ++ itemLexemes more)

/-- Further fields, each behind a comma. -/
def fieldLexemes : List (List Piece × Written) → List Lexeme
  | [] => []
  | (key, w) :: more => .comma :: .string key :: .colon :: (lexemes w ++ fieldLexemes more)

end

theorem foldlM_cons_of_step (state : State) (l : Lexeme) {state' : State}
    (h : step state l = some state') (rest : List Lexeme) :
    (l :: rest).foldlM step state = rest.foldlM step state' := by
  rw [List.foldlM_cons, h]
  rfl

/-- Where an array has just been opened, any document is its first item. -/
theorem foldlM_firstItem (w : Written) (stack : List Frame) (rest : List Lexeme) :
    (w.lexemes ++ rest).foldlM step (.firstItem stack) =
      (w.lexemes ++ rest).foldlM step (.value (.items [] :: stack)) := by
  have key : ∀ l ls, l ≠ .closeArray →
      (l :: ls).foldlM step (.firstItem stack) =
        (l :: ls).foldlM step (.value (.items [] :: stack)) := by
    intro l ls hl
    have hstep : step (.firstItem stack) l = step (.value (.items [] :: stack)) l := by
      cases l with
      | closeArray => exact absurd rfl hl
      | _ => rfl
    rw [List.foldlM_cons, List.foldlM_cons, hstep]
  unfold lexemes
  split
  all_goals exact key _ _ nofun

mutual

/-- Behind the lexemes of a document, the document is complete. -/
theorem foldlM_lexemes : ∀ (w : Written) (stack : List Frame) (rest : List Lexeme),
    (w.lexemes ++ rest).foldlM step (.value stack) = rest.foldlM step (.after w stack)
  | .null, _, _ => rfl
  | .bool _, _, _ => rfl
  | .string _, _, _ => rfl
  | .number _, _, _ => rfl
  | .array [], _, _ => rfl
  | .array (item :: more), stack, rest => by
    have hopen := foldlM_cons_of_step (.value stack) .openArray rfl
      (item.lexemes ++ (itemLexemes more ++ .closeArray :: rest))
    have hitem := foldlM_lexemes item (.items [] :: stack)
      (itemLexemes more ++ .closeArray :: rest)
    have hmore := foldlM_items more item [] stack rest
    rw [foldlM_firstItem, hitem, hmore] at hopen
    simpa only [lexemes, List.cons_append, List.append_assoc, List.nil_append,
      List.reverse_nil] using hopen
  | .object [], _, _ => rfl
  | .object ((key, w) :: more), stack, rest => by
    have hopen : (.openObject :: .string key :: .colon ::
        (w.lexemes ++ (fieldLexemes more ++ .closeObject :: rest))).foldlM step (.value stack) =
        (w.lexemes ++ (fieldLexemes more ++ .closeObject :: rest)).foldlM step
          (.value (.fields [] key :: stack)) := rfl
    have hvalue := foldlM_lexemes w (.fields [] key :: stack)
      (fieldLexemes more ++ .closeObject :: rest)
    have hmore := foldlM_fields more key w [] stack rest
    rw [hvalue, hmore] at hopen
    simpa only [lexemes, List.cons_append, List.append_assoc, List.nil_append,
      List.reverse_nil] using hopen

theorem foldlM_items : ∀ (more : List Written) (w : Written) (done : List Written)
    (stack : List Frame) (rest : List Lexeme),
    (itemLexemes more ++ .closeArray :: rest).foldlM step (.after w (.items done :: stack)) =
      rest.foldlM step (.after (.array (done.reverse ++ w :: more)) stack)
  | [], w, done, stack, rest => by
    have hclose := foldlM_cons_of_step (.after w (.items done :: stack)) .closeArray rfl rest
    rwa [List.reverse_cons] at hclose
  | item :: more, w, done, stack, rest => by
    have hcomma := foldlM_cons_of_step (.after w (.items done :: stack)) .comma rfl
      (item.lexemes ++ (itemLexemes more ++ .closeArray :: rest))
    have hitem := foldlM_lexemes item (.items (w :: done) :: stack)
      (itemLexemes more ++ .closeArray :: rest)
    have hmore := foldlM_items more item (w :: done) stack rest
    rw [hitem, hmore] at hcomma
    simpa only [itemLexemes, List.cons_append, List.append_assoc, List.reverse_cons,
      List.nil_append] using hcomma

theorem foldlM_fields : ∀ (more : List (List Piece × Written)) (key : List Piece) (w : Written)
    (done : List (List Piece × Written)) (stack : List Frame) (rest : List Lexeme),
    (fieldLexemes more ++ .closeObject :: rest).foldlM step (.after w (.fields done key :: stack)) =
      rest.foldlM step (.after (.object (done.reverse ++ (key, w) :: more)) stack)
  | [], key, w, done, stack, rest => by
    have hclose := foldlM_cons_of_step (.after w (.fields done key :: stack)) .closeObject rfl rest
    rwa [List.reverse_cons] at hclose
  | (next, item) :: more, key, w, done, stack, rest => by
    have hcomma : (.comma :: .string next :: .colon ::
        (item.lexemes ++ (fieldLexemes more ++ .closeObject :: rest))).foldlM step
          (.after w (.fields done key :: stack)) =
        (item.lexemes ++ (fieldLexemes more ++ .closeObject :: rest)).foldlM step
          (.value (.fields ((key, w) :: done) next :: stack)) := rfl
    have hvalue := foldlM_lexemes item (.fields ((key, w) :: done) next :: stack)
      (fieldLexemes more ++ .closeObject :: rest)
    have hmore := foldlM_fields more next item ((key, w) :: done) stack rest
    rw [hvalue, hmore] at hcomma
    simpa only [fieldLexemes, List.cons_append, List.append_assoc, List.reverse_cons,
      List.nil_append] using hcomma

end

theorem ofLexemes?_lexemes (w : Written) : ofLexemes? w.lexemes = some w := by
  have hread := foldlM_lexemes w [] []
  rw [List.append_nil] at hread
  rw [ofLexemes?, hread]
  rfl

end Written

/-! ## Written strings -/

theorem pieces?_spelled {c : Char} {w : Text} {piece : Piece} (h : Spelled c w piece) (t : Text) :
    pieces? (w ++ t) = (pieces? t).map fun (pieces, rest) => (piece :: pieces, rest) := by
  cases h with
  | plain quote backslash visible =>
    rw [List.singleton_append, pieces?, if_neg (Nat.not_lt.mpr visible)]
    · cases pieces? t <;> rfl
    · exact fun he => absurd he quote
    · exact fun _ _ _ _ _ he => absurd he backslash
    · exact fun _ _ he => absurd he backslash
  | @letter e named =>
    have hu : e ≠ 'u' := by
      rintro rfl
      cases named
    simp only [List.cons_append, List.nil_append]
    rw [pieces?, named]
    · cases pieces? t <;> rfl
    · exact fun _ _ _ _ _ he => absurd he hu
  | @digits x y value =>
    simp only [List.cons_append, List.nil_append]
    rw [pieces?, value]
    cases pieces? t <;> rfl

/-- A string that was escaped is read up to its closing quote. -/
theorem pieces?_escaped (t rest : Text) :
    pieces? (t.flatMap escape ++ '"' :: rest) = some (t.map pieceOf, rest) := by
  induction t with
  | nil => rfl
  | cons c t ih =>
    rw [List.flatMap_cons, List.append_assoc, pieces?_spelled (spelled_escape c), ih]
    rfl

/-! ## Lexemes of a text -/

theorem lexemes?_eq (t : Text) :
    lexemes? t =
      match t.dropWhile isSpace with
      | [] => some []
      | c :: u => (lexeme? (c :: u)).bind fun (l, rest) => (lexemes? rest).map (l :: ·) := by
  rw [lexemes?]
  split
  · rename_i hnil _
    rw [hnil]
  · rename_i c u hcons _
    rw [hcons]
    split
    · rename_i hnone
      simp only [hnone, Option.bind_none]
    · rename_i hsome
      simp only [hsome, Option.bind_some]

theorem lexemes?_space {c : Char} (h : isSpace c = true) (t : Text) :
    lexemes? (c :: t) = lexemes? t := by
  rw [lexemes?_eq, List.dropWhile_cons_of_pos h, ← lexemes?_eq]

theorem lexemes?_lexeme {c : Char} {t rest : Text} {l : Lexeme} (hspace : isSpace c = false)
    (hl : lexeme? (c :: t) = some (l, rest)) :
    lexemes? (c :: t) = (lexemes? rest).map (l :: ·) := by
  have hdrop : (c :: t).dropWhile isSpace = c :: t :=
    List.dropWhile_cons_of_neg (by rw [hspace]; exact Bool.false_ne_true)
  simp only [lexemes?_eq (c :: t), hdrop, hl, Option.bind_some]

/-- The text gives these lexemes, whatever follows it. -/
def Lexes (s : Text) (ls : List Lexeme) : Prop :=
  ∀ t, lexemes? (s ++ t) = (lexemes? t).map (ls ++ ·)

theorem lexes_nil : Lexes [] [] := by
  intro t
  cases h : lexemes? t <;> simp [h]

theorem Lexes.append {s s' : Text} {ls ls' : List Lexeme} (h : Lexes s ls) (h' : Lexes s' ls') :
    Lexes (s ++ s') (ls ++ ls') := by
  intro t
  rw [List.append_assoc, h, h', Option.map_map]
  congr 1
  funext ms
  exact (List.append_assoc ls ls' ms).symm

theorem Lexes.lexemes? {s : Text} {ls : List Lexeme} (h : Lexes s ls) : lexemes? s = some ls := by
  have hend : Json.lexemes? [] = some [] := by
    rw [Json.lexemes?]
    rfl
  have hs := h []
  rwa [List.append_nil, hend, Option.map_some, List.append_nil] at hs

theorem lexes_space {c : Char} (h : isSpace c = true) : Lexes [c] [] := by
  intro t
  rw [List.singleton_append, lexemes?_space h]
  exact lexes_nil t

theorem lexes_newLine (level : Nat) : Lexes (newLine level) [] := by
  have hindent : ∀ n, Lexes (List.replicate n ' ') [] := by
    intro n
    induction n with
    | zero => exact lexes_nil
    | succ n ih => exact (lexes_space (by decide)).append ih
  exact (lexes_space (by decide)).append (hindent _)

/-- A character that is a lexeme of its own. -/
theorem lexes_mark {c : Char} {l : Lexeme} (hspace : isSpace c = false)
    (hl : ∀ t, lexeme? (c :: t) = some (l, t)) : Lexes [c] [l] := by
  intro t
  rw [List.singleton_append, lexemes?_lexeme hspace (hl t)]
  rfl

theorem lexes_literal (t : Text) : Lexes (literal t) [.string (t.map pieceOf)] := by
  intro rest
  have hl : lexeme? ('"' :: (t.flatMap escape ++ '"' :: rest)) =
      some (.string (t.map pieceOf), rest) := by
    simp only [lexeme?, pieces?_escaped, Option.map_some]
  have h := lexemes?_lexeme (by decide) hl
  simpa only [literal, List.cons_append, List.append_assoc, List.nil_append] using h

end Stencil.Json
