import Stencil.Jinja.Expression
import Stencil.Proofs.Jinja.Lexing

/-!
# Reading written expressions

What `Jinja.Expression.ofLexemes` makes of the lexemes of a written expression: a dotted name with
filters behind it. Each function of the reader is given more fuel than the lexemes use up, and stops
where nothing can go on, at a comma or a closing bracket or at the end.

* `Argument`, `Filtering`: arguments and filters that carry what makes them readable.
* `Expression.filters_filter`, `Expression.filters_chain`: one filter, and then all of them.
* `Expression.ofLexemes_chain`: a path with its filters.
* `body_of_lexes`, `body_chain`: the lexemes of the whole, up to the closing braces.
-/

namespace Stencil.Jinja

/-- Nothing in an expression goes on with these lexemes. -/
def Ends : List Lexeme → Prop
  | [] => True
  | .comma :: _ => True
  | .closing _ :: _ => True
  | _ => False

namespace Expression

variable {ls rest : List Lexeme} {e : Expression}

/-! ## Where nothing goes on -/

theorem operatorFrom?_of_ends (h : Ends ls) (level : Nat) : operatorFrom? level ls = .ok none := by
  match ls, h with
  | [], _ => rw [operatorFrom?]; split <;> rfl
  | .comma :: _, _ => rw [operatorFrom?]; split <;> rfl
  | .closing _ :: _, _ => rw [operatorFrom?]; split <;> rfl

theorem operators_of_ends (h : Ends ls) {n : Nat} (hn : 1 ≤ n) (level : Nat) (e : Expression) :
    operators n level e ls = .ok (e, ls) := by
  obtain ⟨n, rfl⟩ := Nat.exists_eq_add_of_le' hn
  rw [operators, operatorFrom?_of_ends h]
  rfl

theorem choices_of_ends (h : Ends ls) {n : Nat} (hn : 1 ≤ n) (e : Expression) :
    choices n e ls = .ok (e, ls) := by
  obtain ⟨n, rfl⟩ := Nat.exists_eq_add_of_le' hn
  match ls, h with
  | [], _ => rfl
  | .comma :: _, _ => rfl
  | .closing _ :: _, _ => rfl

theorem filters_of_ends (h : Ends ls) {n : Nat} (hn : 1 ≤ n) (e : Expression) :
    filters n e ls = .ok (e, ls) := by
  obtain ⟨n, rfl⟩ := Nat.exists_eq_add_of_le' hn
  match ls, h with
  | [], _ => rfl
  | .comma :: _, _ => rfl
  | .closing _ :: _, _ => rfl

theorem items_of_ends (h : Ends ls) {n : Nat} (hn : 1 ≤ n) (e : Expression) :
    items n e ls = .ok (e, ls) := by
  obtain ⟨n, rfl⟩ := Nat.exists_eq_add_of_le' hn
  match ls, h with
  | [], _ => rfl
  | .comma :: _, _ => rfl
  | .closing _ :: _, _ => rfl

/-- An operand behind which nothing goes on is the whole expression. -/
theorem read_of_operand {n : Nat} (hn : 1 ≤ n) (hnot : afterWord? "not" ls = none)
    (h : operand n ls = .ok (e, rest)) (hrest : Ends rest) : read (n + 2) ls = .ok (e, rest) := by
  have hoperation : operation (n + 1) 0 ls = .ok (e, rest) := by
    rw [operation, hnot, Option.filter_none]
    simp only [h, bind, Except.bind]
    exact operators_of_ends hrest hn 0 e
  rw [read, hoperation]
  exact choices_of_ends hrest (Nat.le_succ_of_le hn) e

theorem read_of_operand_error {n : Nat} {fault : Fault} (hnot : afterWord? "not" ls = none)
    (h : operand n ls = .error fault) : read (n + 2) ls = .error fault := by
  have hoperation : operation (n + 1) 0 ls = .error fault := by
    rw [operation, hnot, Option.filter_none]
    simp only [h, bind, Except.bind]
  rw [read, hoperation]
  rfl

/-! ## Arguments -/

/-- Lexemes that are read as an expression wherever an argument may stand. -/
structure Reads (ls : List Lexeme) (e : Expression) : Prop where
  starts : ∀ rest, ∃ fault, afterClosing .round (ls ++ rest) = .error fault
  read : ∀ n rest, 8 ≤ n → Ends rest → read n (ls ++ rest) = .ok (e, rest)

/-- What stands behind minus signs is an argument, if nothing goes on with it. -/
theorem reads_of_signed (hstarts : ∀ rest, ∃ fault, afterClosing .round (ls ++ rest) = .error fault)
    (hnot : ∀ rest, afterWord? "not" (ls ++ rest) = none)
    (h : ∀ n rest, signed (n + 5) (ls ++ rest) = .ok (e, rest)) : Reads ls e := by
  refine ⟨hstarts, ?_⟩
  intro n rest hn hrest
  obtain ⟨n, rfl⟩ := Nat.exists_eq_add_of_le' hn
  apply read_of_operand (by omega) (hnot rest) ?_ hrest
  rw [operand, h]
  simp only [bind, Except.bind]
  rw [items_of_ends hrest (by omega)]
  exact filters_of_ends hrest (by omega) _

theorem reads_string (t : Text) : Reads [.string t] (.literal (.string t)) :=
  reads_of_signed (fun _ => ⟨_, rfl⟩) (fun _ => rfl) fun _ _ => rfl

/-- Lexemes that are no expression, wherever an argument may stand. -/
structure Fails (ls : List Lexeme) : Prop where
  starts : ∀ rest, ∃ fault, afterClosing .round (ls ++ rest) = .error fault
  read : ∀ n rest, 8 ≤ n → read n (ls ++ rest) = .error .syntaxError

theorem fails_of_signed (hstarts : ∀ rest, ∃ fault, afterClosing .round (ls ++ rest) = .error fault)
    (hnot : ∀ rest, afterWord? "not" (ls ++ rest) = none)
    (h : ∀ n rest, signed (n + 5) (ls ++ rest) = .error .syntaxError) : Fails ls := by
  refine ⟨hstarts, ?_⟩
  intro n rest hn
  obtain ⟨n, rfl⟩ := Nat.exists_eq_add_of_le' hn
  apply read_of_operand_error (hnot rest)
  rw [operand, h]
  rfl

theorem elements_last (h : Reads ls e) {n : Nat} (hn : 8 ≤ n) (rest : List Lexeme) :
    elements (n + 1) .round (argumentLexemes [ls] ++ .closing .round :: rest) =
      .ok ([e], rest) := by
  obtain ⟨fault, hstarts⟩ := h.starts (.closing .round :: rest)
  rw [argumentLexemes, List.flatMap_nil, List.append_nil, elements, hstarts]
  simp only [h.read n (.closing .round :: rest) hn trivial, bind, Except.bind]
  rfl

theorem elements_next (h : Reads ls e) {n : Nat} (hn : 8 ≤ n) (next : List Lexeme)
    (lss : List (List Lexeme)) (rest : List Lexeme) :
    elements (n + 1) .round (argumentLexemes (ls :: next :: lss) ++ .closing .round :: rest) =
      (elements n .round (argumentLexemes (next :: lss) ++ .closing .round :: rest)).map
        fun (items, rest) => (e :: items, rest) := by
  have hrest : argumentLexemes (ls :: next :: lss) ++ .closing .round :: rest =
      ls ++ .comma :: (argumentLexemes (next :: lss) ++ .closing .round :: rest) := by
    simp only [argumentLexemes, List.flatMap_cons, List.cons_append, List.append_assoc]
  obtain ⟨fault, hstarts⟩ :=
    h.starts (.comma :: (argumentLexemes (next :: lss) ++ .closing .round :: rest))
  have hread := h.read n (.comma :: (argumentLexemes (next :: lss) ++ .closing .round :: rest)) hn
    trivial
  rw [hrest, elements, hstarts]
  simp only [hread, bind, Except.bind]

theorem elements_arguments {lss : List (List Lexeme)} {es : List Expression}
    (h : List.Forall₂ Reads lss es) {n : Nat} (hn : lss.length + 9 ≤ n) (rest : List Lexeme) :
    elements n .round (argumentLexemes lss ++ .closing .round :: rest) = .ok (es, rest) := by
  induction h generalizing n with
  | nil =>
    obtain ⟨n, rfl⟩ := Nat.exists_eq_add_of_le' (Nat.le_trans (Nat.le_add_left 1 _) hn)
    rfl
  | @cons ls e lss es hfirst hmore ih =>
    rw [List.length_cons] at hn
    obtain ⟨n, rfl⟩ := Nat.exists_eq_add_of_le' (Nat.le_trans (Nat.le_add_left 1 _) hn)
    cases hmore with
    | nil => exact elements_last hfirst (by omega) rest
    | @cons next e' lss es hnext hmore =>
      rw [elements_next hfirst (by omega), ih (by omega)]
      rfl

/-- The first argument that is no expression ends the reading. -/
theorem elements_of_fails {lss : List (List Lexeme)}
    (h : ∀ ls ∈ lss, Fails ls ∨ ∃ e, Reads ls e) (hfails : ∃ ls ∈ lss, Fails ls) {n : Nat}
    (hn : lss.length + 9 ≤ n) (rest : List Lexeme) :
    elements n .round (argumentLexemes lss ++ .closing .round :: rest) = .error .syntaxError := by
  induction lss generalizing n with
  | nil =>
    obtain ⟨ls, hls, -⟩ := hfails
    cases hls
  | cons ls lss ih =>
    rw [List.length_cons] at hn
    obtain ⟨n, rfl⟩ := Nat.exists_eq_add_of_le' (Nat.le_trans (Nat.le_add_left 1 _) hn)
    by_cases hls : Fails ls
    · obtain ⟨fault, hstarts⟩ := hls.starts (lss.flatMap (.comma :: ·) ++ .closing .round :: rest)
      rw [argumentLexemes, List.append_assoc, elements, hstarts]
      simp only [hls.read n _ (by omega), bind, Except.bind]
    · obtain ⟨e, he⟩ := (h ls List.mem_cons_self).resolve_left hls
      have hmore : ∃ other ∈ lss, Fails other := by
        obtain ⟨other, hother, hfail⟩ := hfails
        rcases List.mem_cons.mp hother with rfl | hother
        · exact absurd hfail hls
        · exact ⟨other, hother, hfail⟩
      cases lss with
      | nil =>
        obtain ⟨other, hother, -⟩ := hmore
        cases hother
      | cons next lss =>
        have hothers : ∀ other ∈ next :: lss, Fails other ∨ ∃ e, Reads other e :=
          fun other hother => h other (List.mem_cons_of_mem _ hother)
        rw [elements_next he (by omega), ih hothers hmore (by omega)]
        rfl

/-! ## Filters -/

/-- Another filter follows, or nothing. -/
def BarOrEnd : List Lexeme → Prop
  | [] => True
  | .bar :: _ => True
  | _ => False

theorem filterName_of_barOrEnd (h : BarOrEnd rest) (name : Text) :
    filterName (.name name :: rest) = .ok (name, rest) := by
  match rest, h with
  | [], _ => rfl
  | .bar :: _, _ => rfl

theorem length_argumentLexemes (lss : List (List Lexeme)) :
    lss.length ≤ (argumentLexemes lss).length + 1 := by
  cases lss with
  | nil => exact Nat.zero_le _
  | cons first more =>
    have hmore : more.length ≤ (more.flatMap (.comma :: ·)).length := by
      induction more with
      | nil => exact Nat.zero_le _
      | cons ls more ih =>
        rw [List.flatMap_cons, List.length_append, List.length_cons, List.length_cons]
        omega
    rw [argumentLexemes, List.length_append, List.length_cons]
    omega

/-- The lexemes of a filter are more than its arguments. -/
theorem length_filterLexemes (name : Text) (lss : List (List Lexeme)) :
    lss.length + 1 ≤ (filterLexemes name lss).length := by
  have h := length_argumentLexemes lss
  rw [filterLexemes, List.length_cons, List.length_cons]
  split
  · rename_i hnil
    rw [hnil]
    exact Nat.le_add_left _ _
  · simp only [List.length_cons, List.length_append, List.length_nil]
    omega

/-- A filter with arguments is what its arguments are. -/
theorem filters_arguments {lss : List (List Lexeme)} (h : lss ≠ []) (n : Nat) (name : Text)
    (e : Expression) (rest : List Lexeme) :
    filters (n + 1) e (filterLexemes name lss ++ rest) =
      (do
        let (args, ls) ← elements n .round (argumentLexemes lss ++ .closing .round :: rest)
        if greatestArity < args.length then .error .syntaxError
        else filters n (.filter name e args) ls) := by
  have hname : filterName (.name name :: (.opening .round :: argumentLexemes lss ++
      [.closing .round]) ++ rest) =
      .ok (name, .opening .round :: (argumentLexemes lss ++ .closing .round :: rest)) := by
    simp [filterName]
  rw [filterLexemes, if_neg h, List.cons_append, filters, hname]
  rfl

/-- One filter is read and put around the expression before it. -/
theorem filters_filter {lss : List (List Lexeme)} {es : List Expression}
    (h : List.Forall₂ Reads lss es) (hfew : lss.length ≤ greatestArity) {n : Nat}
    (hn : lss.length + 9 ≤ n) (hrest : BarOrEnd rest) (name : Text) (e : Expression) :
    filters (n + 1) e (filterLexemes name lss ++ rest) = filters n (.filter name e es) rest := by
  by_cases hnil : lss = []
  · subst hnil
    cases h
    rw [filterLexemes, if_pos rfl, List.cons_append, List.cons_append, List.nil_append, filters,
      filterName_of_barOrEnd hrest]
    simp only [bind, Except.bind]
    split
    · rename_i hopening
      cases hopening
      exact hrest.elim
    · rename_i hpair
      cases hpair
      rfl
  · have hlen : ¬ greatestArity < es.length := by
      rw [← h.length_eq]
      omega
    rw [filters_arguments hnil, elements_arguments h hn]
    simp only [bind, Except.bind, if_neg hlen]

theorem ne_nil_of_fails {lss : List (List Lexeme)} (h : ∃ ls ∈ lss, Fails ls) : lss ≠ [] := by
  rintro rfl
  obtain ⟨ls, hls, -⟩ := h
  cases hls

/-- A filter with an argument that is no expression ends the reading. -/
theorem filters_of_fails {lss : List (List Lexeme)} (h : ∀ ls ∈ lss, Fails ls ∨ ∃ e, Reads ls e)
    (hfails : ∃ ls ∈ lss, Fails ls) {n : Nat} (hn : lss.length + 9 ≤ n) (name : Text)
    (e : Expression) (rest : List Lexeme) :
    filters (n + 1) e (filterLexemes name lss ++ rest) = .error .syntaxError := by
  rw [filters_arguments (ne_nil_of_fails hfails), elements_of_fails h hfails hn]
  rfl

/-- So does a filter with too many arguments. -/
theorem filters_of_many {lss : List (List Lexeme)} {es : List Expression}
    (h : List.Forall₂ Reads lss es) (hmany : greatestArity < lss.length) {n : Nat}
    (hn : lss.length + 9 ≤ n) (name : Text) (e : Expression) (rest : List Lexeme) :
    filters (n + 1) e (filterLexemes name lss ++ rest) = .error .syntaxError := by
  have hne : lss ≠ [] := List.ne_nil_of_length_pos (Nat.zero_lt_of_lt hmany)
  rw [h.length_eq] at hmany
  rw [filters_arguments hne, elements_arguments h hn]
  simp only [bind, Except.bind, if_pos hmany]

end Expression

/-! ## Written filters -/

/-- A written argument that is read as an expression. -/
structure Argument where
  text : Text
  lexemes : List Lexeme
  expression : Expression
  lexes : Lexes text lexemes
  reads : Expression.Reads lexemes expression

/-- A string literal as an argument. -/
def Argument.literal (t : Text) : Argument where
  text := Json.literal t
  lexemes := [.string t]
  expression := .literal (.string t)
  lexes := lexes_literal t
  reads := Expression.reads_string t

/-- A filter that can be written and read. -/
structure Filtering where
  name : Text
  args : List Argument
  isName : isIdentifier name = true
  few : args.length ≤ greatestArity

namespace Filtering

/-- The filter as it is written. -/
def text (f : Filtering) : Text := filter f.name (f.args.map Argument.text)

/-- The lexemes of the filter. -/
def lexemes (f : Filtering) : List Lexeme := filterLexemes f.name (f.args.map Argument.lexemes)

/-- The filter around an expression. -/
def around (e : Expression) (f : Filtering) : Expression :=
  .filter f.name e (f.args.map Argument.expression)

theorem lexes (f : Filtering) : Lexes f.text f.lexemes := by
  apply lexes_filter f.isName
  rw [List.forall₂_map_left_iff, List.forall₂_map_right_iff, List.forall₂_same]
  exact fun arg _ => arg.lexes.argument

theorem stops (f : Filtering) : Stops f.text := stops_cons (by decide) _

theorem reads (f : Filtering) : List.Forall₂ Expression.Reads (f.args.map Argument.lexemes)
    (f.args.map Argument.expression) := by
  rw [List.forall₂_map_left_iff, List.forall₂_map_right_iff, List.forall₂_same]
  exact fun arg _ => arg.reads

theorem length_lexemes (f : Filtering) : f.args.length + 1 ≤ f.lexemes.length := by
  have h := Expression.length_filterLexemes f.name (f.args.map Argument.lexemes)
  rwa [List.length_map] at h

end Filtering

/-- The lexemes of a path with filters. -/
def chainLexemes (path : List Text) (fs : List Filtering) : List Lexeme :=
  pathLexemes path ++ fs.flatMap Filtering.lexemes

namespace Expression

/-- Filters are read one after the other. -/
theorem filters_chain (fs : List Filtering) {n : Nat}
    (hn : (fs.flatMap Filtering.lexemes).length + 10 ≤ n) (e : Expression) :
    filters n e (fs.flatMap Filtering.lexemes) = .ok (fs.foldl Filtering.around e, []) := by
  induction fs generalizing n e with
  | nil =>
    have hends : Ends [] := trivial
    exact filters_of_ends hends (by omega) e
  | cons f fs ih =>
    have hlength := f.length_lexemes
    rw [List.flatMap_cons, List.length_append] at hn
    obtain ⟨n, rfl⟩ := Nat.exists_eq_add_of_le' (Nat.le_trans (by omega) hn : 1 ≤ n)
    have hends : BarOrEnd (fs.flatMap Filtering.lexemes) := by
      cases fs <;> trivial
    rw [List.flatMap_cons, List.foldl_cons, Filtering.lexemes,
      filters_filter f.reads (by simpa using f.few) (by rw [List.length_map]; omega) hends]
    exact ih (by omega) _

/-! ## Paths -/

/-- What a path stands for: the items behind a name. -/
def ofPath (e : Expression) (more : List Text) : Expression :=
  more.foldl (fun e name => .item e (.literal (.string name))) e

theorem items_path (h : BarOrEnd rest) (more : List Text) {n : Nat} (hn : more.length + 1 ≤ n)
    (e : Expression) :
    items n e (more.flatMap (fun name => [.dot, .name name]) ++ rest) =
      .ok (ofPath e more, rest) := by
  induction more generalizing n e with
  | nil =>
    obtain ⟨n, rfl⟩ := Nat.exists_eq_add_of_le' hn
    match rest, h with
    | [], _ => rfl
    | .bar :: _, _ => rfl
  | cons name more ih =>
    rw [List.length_cons] at hn
    obtain ⟨n, rfl⟩ := Nat.exists_eq_add_of_le' (Nat.le_trans (by omega) hn : 1 ≤ n)
    exact ih (by omega) _

/-- Names that are no names where an expression begins. -/
def reservedWords : List Text :=
  ["not", "true", "True", "false", "False", "none", "None"].map String.toList

theorem ofName_of_notMem {name : Text} (h : name ∉ reservedWords) : ofName name = .name name := by
  simp only [reservedWords, List.map_cons, List.map_nil, List.mem_cons, List.not_mem_nil, or_false,
    not_or] at h
  simp only [ofName, h, or_self, if_false]

theorem length_items (more : List Text) :
    more.length ≤ (more.flatMap fun name => [Lexeme.dot, .name name]).length := by
  induction more with
  | nil => exact Nat.zero_le _
  | cons name more ih =>
    rw [List.flatMap_cons, List.length_append, List.length_cons, List.length_cons]
    omega

/-- A path is read with the filters behind it. -/
theorem operand_path (hbar : BarOrEnd rest) (first : Text) (more : List Text) {n : Nat}
    (hn : (pathLexemes (first :: more)).length + 1 ≤ n) :
    operand (n + 1) (pathLexemes (first :: more) ++ rest) =
      filters n (ofPath (ofName first) more) rest := by
  have hlength := length_items more
  rw [pathLexemes, List.length_cons] at hn
  have hitems := items_path hbar more (n := n) (by omega) (ofName first)
  obtain ⟨k, rfl⟩ := Nat.exists_eq_add_of_le' (Nat.le_trans (by omega) hn : 2 ≤ n)
  have hsigned : ∀ ls, signed (k + 2) (.name first :: ls) = .ok (ofName first, ls) := fun ls => rfl
  rw [pathLexemes, List.cons_append, operand, hsigned]
  simp only [bind, Except.bind, hitems]

/-- The filters behind a path decide what is read. -/
theorem ofLexemes_path {first : Text} (hfirst : first ∉ reservedWords) (more : List Text)
    (hbar : BarOrEnd rest) {result : Except Fault Expression}
    (h : ∀ n, rest.length + 10 ≤ n →
      filters n (ofPath (.name first) more) rest = result.map fun e => (e, [])) :
    ofLexemes (pathLexemes (first :: more) ++ rest) = result := by
  have hword : first ≠ "not".toList := by
    rintro rfl
    exact hfirst (by decide)
  have hnot : afterWord? "not" (pathLexemes (first :: more) ++ rest) = none := if_neg hword
  -- one of the lexemes is the first name, so the fuel exceeds what the filters ask for
  have hlength : (pathLexemes (first :: more)).length + rest.length =
      (pathLexemes (first :: more) ++ rest).length := (List.length_append ..).symm
  have hpos : 1 ≤ (pathLexemes (first :: more)).length := by
    rw [pathLexemes, List.length_cons]
    omega
  have hfuel : 8 * ((pathLexemes (first :: more) ++ rest).length + 1) =
      8 * (pathLexemes (first :: more) ++ rest).length + 5 + 1 + 2 := by omega
  have hoperand := operand_path hbar first more
    (n := 8 * (pathLexemes (first :: more) ++ rest).length + 5) (by omega)
  rw [ofName_of_notMem hfirst, h _ (by omega)] at hoperand
  cases result with
  | ok e =>
    have hends : Ends [] := trivial
    rw [ofLexemes, hfuel, read_of_operand (by omega) hnot hoperand hends]
    rfl
  | error fault =>
    rw [ofLexemes, hfuel, read_of_operand_error hnot hoperand]
    rfl

/-- A path with filters behind it is read. -/
theorem ofLexemes_chain {first : Text} (hfirst : first ∉ reservedWords) (more : List Text)
    (fs : List Filtering) :
    ofLexemes (chainLexemes (first :: more) fs) =
      .ok (fs.foldl Filtering.around (ofPath (.name first) more)) := by
  have hbar : BarOrEnd (fs.flatMap Filtering.lexemes) := by
    cases fs <;> trivial
  apply ofLexemes_path hfirst more hbar
  intro n hn
  exact filters_chain fs hn _

end Expression

/-! ## Written expressions -/

/-- A path with filters, as it is written. -/
def chainText (path : List Text) (fs : List Filtering) : Text :=
  Text.join ['.'] path ++ fs.flatMap Filtering.text

variable {first : Text} {more : List Text}

theorem lexes_chain (h : ∀ name ∈ first :: more, isIdentifier name = true) (fs : List Filtering) :
    Lexes (chainText (first :: more) fs) (chainLexemes (first :: more) fs) :=
  (lexes_path h).append (lexes_flatMap (fun f _ => f.lexes) fun f _ => f.stops)
    (stops_flatMap fun f _ => f.stops)

/-- A written expression ends at its braces, whatever follows them. -/
theorem body_of_lexes {t : Text} {ls : List Lexeme} (h : Lexes t ls) (after : Text) :
    body 0 (' ' :: t ++ (" \x7d\x7d".toList ++ after)) = (ls, some (none, after)) := by
  have hend : body 0 (" \x7d\x7d".toList ++ after) = ([], some (none, after)) :=
    (body_space (by decide) 0 _).trans (body_ending after)
  have hstops : Stops (" \x7d\x7d".toList ++ after) := stops_cons (by decide) _
  rw [h.space 0 _ hstops, hend, List.append_nil]

theorem body_chain (h : ∀ name ∈ first :: more, isIdentifier name = true) (fs : List Filtering)
    (after : Text) :
    body 0 (' ' :: chainText (first :: more) fs ++ (" \x7d\x7d".toList ++ after)) =
      (chainLexemes (first :: more) fs, some (none, after)) :=
  body_of_lexes (lexes_chain h fs) after

end Stencil.Jinja
