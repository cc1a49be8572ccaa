import Stencil.Json.Lexeme

/-!
# Reading JSON

A text is read in three stages. `lexemes?` splits it into lexemes. `Written.ofLexemes?` puts these
together to a document as it is written, following the open arrays and objects on a stack, so that
it needs no recursion other than along the lexemes. `Written.value?` gives the document its value:
strings and numbers are decoded, a repeated key keeps its first place and its last value, and
documents that are nested too deeply are refused.
-/

namespace Stencil.Json

/-! ## Splitting into lexemes -/

theorem pieces?_length {t rest : Text} {pieces : List Piece} (h : pieces? t = some (pieces, rest)) :
    rest.length < t.length := by
  fun_induction pieces? t generalizing pieces rest with
  | case1 => cases h
  | case2 => cases h; simp
  | case3 a b c d t ih =>
    simp only [bind, Option.bind_eq_some_iff] at h
    obtain ⟨_, _, ⟨_, _⟩, hp, h⟩ := h
    cases h
    have := ih hp
    simp only [List.length_cons]
    omega
  | case4 e t _ ih =>
    simp only [bind, Option.bind_eq_some_iff] at h
    obtain ⟨_, _, ⟨_, _⟩, hp, h⟩ := h
    cases h
    have := ih hp
    simp only [List.length_cons]
    omega
  | case5 => cases h
  | case6 c t _ _ _ _ ih =>
    simp only [bind, Option.bind_eq_some_iff] at h
    obtain ⟨⟨_, _⟩, hp, h⟩ := h
    cases h
    have := ih hp
    simp only [List.length_cons]
    omega

theorem spanDigits_length_le (t : Text) : (Decimal.spanDigits t).2.length ≤ t.length :=
  (List.dropWhile_sublist _).length_le

theorem takeExponent?_length {t rest : Text} {e : Option (Bool × Text)}
    (h : Decimal.Numeral.takeExponent? t = some (e, rest)) : rest.length ≤ t.length := by
  unfold Decimal.Numeral.takeExponent? at h
  split at h
  · cases h; simp
  · rename_i c t
    split at h
    · split at h
      rename_i negative t' heq
      have ht : t'.length ≤ t.length := by
        split at heq <;> cases heq <;> simp
      split at h
      · cases h
      · rename_i digits t'' hs
        cases h
        have := spanDigits_length_le t'
        rw [hs] at this
        simp only [List.length_cons] at this ⊢
        omega
    · cases h; simp

theorem numeral?_length {t rest : Text} {n : Decimal.Numeral}
    (h : numeral? t = some (n, rest)) : rest.length < t.length := by
  unfold numeral? at h
  split at h
  rename_i negative t' heq
  have ht : t'.length ≤ t.length := by
    split at heq <;> cases heq <;> simp
  split at h
  rename_i whole t'' hs
  split at h
  · cases h
  · rename_i hw
    have hlt : t''.length < t'.length := by
      have hsplit : whole ++ t'' = t' := by
        simp only [Decimal.spanDigits, Prod.mk.injEq] at hs
        rw [← hs.1, ← hs.2, List.takeWhile_append_dropWhile]
      have hne : whole.length ≠ 0 := by
        intro h0
        exact hw (Or.inl (List.length_eq_zero_iff.mp h0))
      rw [← hsplit]
      simp only [List.length_append]
      omega
    simp only at h
    split at h
    · rename_i u
      split at h
      · cases h
      · rename_i fraction u' hu
        obtain ⟨⟨e, r⟩, he, hr⟩ := Option.map_eq_some_iff.mp h
        cases hr
        have h1 := takeExponent?_length he
        have h2 := spanDigits_length_le u
        rw [hu] at h2
        simp only [List.length_cons] at hlt h1 h2 ⊢
        omega
    · obtain ⟨⟨e, r⟩, he, hr⟩ := Option.map_eq_some_iff.mp h
      cases hr
      have h1 := takeExponent?_length he
      simp only at h1 ⊢
      omega

theorem after?_length {mark t rest : Text} (h : Text.after? mark t = some rest) :
    rest.length ≤ t.length := by
  rw [Text.eq_of_after? h]
  simp

/-- A lexeme takes at least one character. -/
theorem lexeme?_length {t rest : Text} {l : Lexeme} (h : lexeme? t = some (l, rest)) :
    rest.length < t.length := by
  unfold lexeme? at h
  split at h
  · cases h
  · rename_i c t
    split at h
    case h_7 =>
      obtain ⟨⟨p, r⟩, hp, hr⟩ := Option.map_eq_some_iff.mp h
      cases hr
      have := pieces?_length hp
      simp only [List.length_cons]
      omega
    case h_8 | h_9 | h_10 =>
      obtain ⟨r, hp, hr⟩ := Option.map_eq_some_iff.mp h
      cases hr
      have := after?_length hp
      simp only [List.length_cons]
      omega
    case h_11 =>
      obtain ⟨⟨n, r⟩, hn, hr⟩ := Option.map_eq_some_iff.mp h
      cases hr
      exact numeral?_length hn
    all_goals cases h; simp

/-- The lexemes of a text. -/
def lexemes? (t : Text) : Option (List Lexeme) :=
  match t.dropWhile isSpace, (List.dropWhile_sublist isSpace (l := t)).length_le with
  | [], _ => some []
  | c :: u, _ =>
    match _h : lexeme? (c :: u) with
    | none => none
    | some (l, rest) => (lexemes? rest).map (l :: ·)
termination_by t.length
decreasing_by
  have := lexeme?_length _h
  omega

/-! ## Putting lexemes together -/

/-- A document as it is written: repeated keys are all there, strings and numbers are not
decoded. -/
inductive Written where
  | null
  | bool (b : Bool)
  | string (pieces : List Piece)
  | number (n : Decimal.Numeral)
  | array (items : List Written)
  | object (fields : List (List Piece × Written))

namespace Written

/-- An array or object that is still open: what it holds so far, the last one first, and for an
object the key whose value is being read. -/
inductive Frame where
  | items (done : List Written)
  | fields (done : List (List Piece × Written)) (key : List Piece)

/-- What may come next, with the stack of the open arrays and objects.

* `value`: a value.
* `firstItem`: a value, or the end of an array.
* `firstKey`: a key, or the end of an object.
* `key`: a key; the fields so far are given.
* `colon`: the colon behind a key.
* `after`: what follows a complete value. -/
inductive State where
  | value (stack : List Frame)
  | firstItem (stack : List Frame)
  | firstKey (stack : List Frame)
  | key (done : List (List Piece × Written)) (stack : List Frame)
  | colon (done : List (List Piece × Written)) (key : List Piece) (stack : List Frame)
  | after (w : Written) (stack : List Frame)

/-- A lexeme where a value is expected. -/
def startValue (stack : List Frame) : Lexeme → Option State
  | .null => some (.after .null stack)
  | .bool b => some (.after (.bool b) stack)
  | .string pieces => some (.after (.string pieces) stack)
  | .number n => some (.after (.number n) stack)
  | .openArray => some (.firstItem stack)
  | .openObject => some (.firstKey stack)
  | _ => none

/-- One lexeme more. -/
def step : State → Lexeme → Option State
  | .value stack, l => startValue stack l
  | .firstItem stack, .closeArray => some (.after (.array []) stack)
  | .firstItem stack, l => startValue (.items [] :: stack) l
  | .firstKey stack, .closeObject => some (.after (.object []) stack)
  | .firstKey stack, .string key => some (.colon [] key stack)
  | .key done stack, .string key => some (.colon done key stack)
  | .colon done key stack, .colon => some (.value (.fields done key :: stack))
  | .after w (.items done :: stack), .comma => some (.value (.items (w :: done) :: stack))
  | .after w (.items done :: stack), .closeArray =>
    some (.after (.array (w :: done).reverse) stack)
  | .after w (.fields done key :: stack), .comma => some (.key ((key, w) :: done) stack)
  | .after w (.fields done key :: stack), .closeObject =>
    some (.after (.object ((key, w) :: done).reverse) stack)
  | _, _ => none

/-- The document that a sequence of lexemes writes. -/
def ofLexemes? (lexemes : List Lexeme) : Option Written :=
  match lexemes.foldlM step (.value []) with
  | some (.after w []) => some w
  | _ => none

/-- The document that a text writes. -/
def ofText? (t : Text) : Option Written := (lexemes? t).bind ofLexemes?

/-! ## Values -/

/-- How many arrays and objects may be open at the same time. -/
def greatestDepth : Nat := 127

mutual

/-- The value of a document, with room for so many open arrays and objects. -/
def valueWithin? (room : Nat) : Written → Option Json
  | .null => some .null
  | .bool b => some (.bool b)
  | .string pieces => (decode? pieces).map .string
  | .number n => n.stepwise?.map .number
  | .array items =>
    match room with
    | 0 => none
    | room + 1 => (itemsWithin? room items).map .array
  | .object fields =>
    match room with
    | 0 => none
    | room + 1 => (fieldsWithin? room fields).map fun pairs => .object (Entries.ofList pairs)

/-- The values of the items of an array. -/
def itemsWithin? (room : Nat) : List Written → Option (List Json)
  | [] => some []
  | item :: more => do
    let value ← valueWithin? room item
    let values ← itemsWithin? room more
    pure (value :: values)

/-- The keys and values of the fields of an object, as they are written. -/
def fieldsWithin? (room : Nat) : List (List Piece × Written) → Option (List (Text × Json))
  | [] => some []
  | (key, item) :: more => do
    let key ← decode? key
    let value ← valueWithin? room item
    let pairs ← fieldsWithin? room more
    pure ((key, value) :: pairs)

end

/-- The value of a document. -/
def value? (w : Written) : Option Json := valueWithin? greatestDepth w

end Written

/-- Reads a JSON text. -/
def read? (t : Text) : Option Json := (Written.ofText? t).bind Written.value?

end Stencil.Json
