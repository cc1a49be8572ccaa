import Stencil.Jinja.Rendering
import Stencil.Proofs.Decimal.Plain
import Stencil.Proofs.Jinja.Reading

/-!
# Numbers as arguments

What Jinja makes of a plain numeral between commas or brackets: its lexemes, the expression that
these are read as if Jinja knows such numbers, and the value of that. `IsReadable` says when it
does: a point in front of all digits is a mark of its own, and whole numbers are bounded.

* `lexesArgument_number`: the lexemes, readable or not.
* `Expression.reads_number`, `Expression.fails_number`: what they are read as.
* `Value.negate_whole`: what becomes of a whole number under a minus sign.
* `Expression.value_ofNumeral_iff`: the value is the number that the numeral spells, unless that is
  whole, below zero, and too large without its sign.
-/

namespace Stencil.Jinja

open Decimal (Numeral valueOf)

/-! ## Digits -/

theorem notMem_of_isDigit {c : Char} (h : c.isDigit = true) {signs : List Char}
    (hsigns : signs.any Char.isDigit = false) : c ∉ signs := by
  intro hmem
  rw [List.any_eq_false] at hsigns
  exact hsigns c hmem h

theorem mark?_of_isDigit {c : Char} (h : c.isDigit = true) : mark? c = none := by
  unfold mark?
  split
  all_goals first | rfl | exact absurd h (by decide)

theorem radix?_of_notMem {c : Char} (h : c ∉ ['x', 'X', 'o', 'O', 'b', 'B']) : radix? c = none := by
  simp only [List.mem_cons, List.not_mem_nil, or_false, not_or] at h
  simp only [radix?, h, or_self, if_false]

theorem hexValue?_of_isDigit {c : Char} (h : c.isDigit = true) :
    Json.hexValue? c = some (c.toNat - '0'.toNat) := by
  rw [Json.hexValue?, if_pos h]
  rfl

theorem wholeLexeme_digits {digits : Text} (h : ∀ c ∈ digits, c.isDigit = true)
    (hne : digits ≠ []) :
    wholeLexeme 10 digits =
      if valueOf digits < wholeBound then .whole (valueOf digits) else .bad .syntaxError := by
  have hvalue : ∀ n, digits.foldlM
      (fun n c => ((Json.hexValue? c).filter (· < 10)).map (10 * n + ·)) n =
        some (digits.foldl (fun n c => 10 * n + (c.toNat - '0'.toNat)) n) := by
    clear hne
    induction digits with
    | nil => exact fun _ => rfl
    | cons c digits ih =>
      intro n
      have hc : c.isDigit = true := h c List.mem_cons_self
      have hlt : c.toNat - '0'.toNat < 10 := by
        have hle := (Char.isDigit_iff_toNat.mp hc).2
        have hnine : '9'.toNat = 57 := rfl
        have hzero : '0'.toNat = 48 := rfl
        omega
      rw [List.foldlM_cons, hexValue?_of_isDigit hc, Option.filter_some,
        if_pos (decide_eq_true hlt), List.foldl_cons]
      exact ih (fun d hd => h d (List.mem_cons_of_mem _ hd)) _
  rw [wholeLexeme, hvalue]
  simp only [ne_eq, hne, not_false_eq_true, true_and]
  rfl

section

variable {written : Text} (h : '_' ∉ written)

include h

theorem filter_underscores : written.filter (· ≠ '_') = written := by
  rw [List.filter_eq_self]
  intro c hc
  rw [decide_eq_true_eq]
  rintro rfl
  exact h hc

theorem numberOf_whole : numberOf 10 .whole written = wholeLexeme 10 written := by
  have hlast : written.getLast? ≠ some '_' := fun hlast => h (List.mem_of_getLast? hlast)
  rw [numberOf, filter_underscores h, if_neg hlast, if_pos rfl]

theorem numberOf_float {last : NumberPart} {n : Numeral} (hpart : last ≠ .whole)
    (hn : Numeral.ofText? written = some n) :
    numberOf 10 last written = .float (.ofNumeral n) := by
  have hlast : written.getLast? ≠ some '_' := fun hlast => h (List.mem_of_getLast? hlast)
  rw [numberOf, filter_underscores h, if_neg hlast, if_neg hpart, hn]

end

/-! ## Numbers in a text -/

theorem next?_of_isDigit {part : NumberPart} (hpart : part = .whole ∨ part = .fraction) {c : Char}
    (hc : c.isDigit = true) (t : Text) : part.next? c t = some part := by
  rcases hpart with rfl | rfl
  all_goals simp only [NumberPart.next?, hc, Bool.true_or, if_true]

theorem spanNumber_digits {part : NumberPart} (hpart : part = .whole ∨ part = .fraction)
    {digits : Text} (h : ∀ c ∈ digits, c.isDigit = true) (t : Text) :
    spanNumber part (digits ++ t) =
      (digits ++ (spanNumber part t).1, (spanNumber part t).2) := by
  induction digits with
  | nil => rfl
  | cons c digits ih =>
    simp only [List.cons_append, spanNumber, next?_of_isDigit hpart (h c List.mem_cons_self),
      ih fun d hd => h d (List.mem_cons_of_mem _ hd)]

theorem spanNumber_of_delimits {part : NumberPart} (hpart : part = .whole ∨ part = .fraction)
    {rest : Text} (h : Delimits rest) : spanNumber part rest = ([], part, rest) := by
  obtain ⟨c, more, rfl, hc⟩ := h
  simp only [List.mem_cons, List.not_mem_nil, or_false] at hc
  rcases hpart with rfl | rfl <;> rcases hc with rfl | rfl
  all_goals rfl

/-- Behind a digit, no base is announced by these characters. -/
theorem radix?_head {t : Text} (h : ∀ c ∈ t.head?, c.isDigit = true ∨ c ∈ ['.', ',', ')']) :
    t.head?.bind radix? = none := by
  rw [Option.bind_eq_none_iff]
  intro c hc
  apply radix?_of_notMem
  rcases h c hc with hdigit | hmem
  · exact notMem_of_isDigit hdigit (by decide)
  · simp only [List.mem_cons, List.not_mem_nil, or_false] at hmem
    rcases hmem with rfl | rfl | rfl
    all_goals decide

theorem numberLexeme_of_span {c : Char} {t written rest : Text} {last : NumberPart}
    (hhead : ∀ d ∈ t.head?, d.isDigit = true ∨ d ∈ ['.', ',', ')'])
    (hspan : spanNumber .whole t = (written, last, rest)) :
    numberLexeme c t = (numberOf 10 last (c :: written), rest) := by
  simp only [numberLexeme, radix?_head hhead, Option.filter_none, hspan]

theorem head?_digits_append {digits t : Text} (h : ∀ c ∈ digits, c.isDigit = true)
    (ht : ∀ c ∈ t.head?, c ∈ ['.', ',', ')']) :
    ∀ c ∈ (digits ++ t).head?, c.isDigit = true ∨ c ∈ ['.', ',', ')'] := by
  cases digits with
  | nil => exact fun c hc => Or.inr (ht c hc)
  | cons d digits =>
    rintro c hc
    cases hc
    exact Or.inl (h d List.mem_cons_self)

theorem Delimits.mem_head? {rest : Text} (h : Delimits rest) :
    ∀ c ∈ rest.head?, c ∈ ['.', ',', ')'] := by
  obtain ⟨d, more, rfl, hd⟩ := h
  rintro c hc
  cases hc
  exact List.mem_cons_of_mem _ hd

section

variable {c : Char} {digits rest : Text}

theorem numberLexeme_whole (h : ∀ d ∈ c :: digits, d.isDigit = true) (hrest : Delimits rest) :
    numberLexeme c (digits ++ rest) = (wholeLexeme 10 (c :: digits), rest) := by
  have hdigits : ∀ d ∈ digits, d.isDigit = true := fun d hd => h d (List.mem_cons_of_mem _ hd)
  have hspan : spanNumber .whole (digits ++ rest) = (digits, .whole, rest) := by
    rw [spanNumber_digits (Or.inl rfl) hdigits, spanNumber_of_delimits (Or.inl rfl) hrest,
      List.append_nil]
  have hunderscore : '_' ∉ c :: digits := fun hmem => absurd (h '_' hmem) (by decide)
  rw [numberLexeme_of_span (head?_digits_append hdigits hrest.mem_head?) hspan,
    numberOf_whole hunderscore]

theorem numberLexeme_point {fraction : Text} (h : ∀ d ∈ c :: digits, d.isDigit = true)
    (hfraction : ∀ d ∈ fraction, d.isDigit = true) (hrest : Delimits rest) :
    numberLexeme c (digits ++ '.' :: (fraction ++ rest)) =
      (.float (.ofNumeral ⟨false, c :: digits, some fraction, none⟩), rest) := by
  have hdigits : ∀ d ∈ digits, d.isDigit = true := fun d hd => h d (List.mem_cons_of_mem _ hd)
  have hname : (fraction ++ rest).head?.any isNameStart = false := by
    rw [Option.any_eq_false]
    intro d hd
    rw [Bool.eq_false_iff]
    intro hstart
    rcases head?_digits_append hfraction hrest.mem_head? d hd with hdigit | hmem
    · rw [isDigit_of_isNameStart hstart] at hdigit
      cases hdigit
    · exact notMem_of_isNameStart hstart (by decide) hmem
  have hpoint : NumberPart.whole.next? '.' (fraction ++ rest) = some .fraction := by
    have hdot : ('.'.isDigit || '.' == '_') = false := by decide
    rw [NumberPart.next?, hdot, hname]
    rfl
  have hspan : spanNumber .whole (digits ++ '.' :: (fraction ++ rest)) =
      (digits ++ '.' :: fraction, .fraction, rest) := by
    rw [spanNumber_digits (Or.inl rfl) hdigits, spanNumber, hpoint]
    simp only [spanNumber_digits (Or.inr rfl) hfraction, spanNumber_of_delimits (Or.inr rfl) hrest,
      List.append_nil]
  have hunderscore : '_' ∉ c :: (digits ++ '.' :: fraction) := by
    intro hmem
    rw [← List.cons_append, List.mem_append] at hmem
    rcases hmem with hmem | hmem
    · exact absurd (h '_' hmem) (by decide)
    · rcases List.mem_cons.mp hmem with hmem | hmem
      · exact absurd hmem (by decide)
      · exact absurd (hfraction '_' hmem) (by decide)
  have hhead : ∀ d ∈ ('.' :: (fraction ++ rest)).head?, d ∈ ['.', ',', ')'] := by
    rintro d hd
    cases hd
    decide
  have hpart : NumberPart.fraction ≠ .whole := by decide
  rw [numberLexeme_of_span (head?_digits_append hdigits hhead) hspan,
    numberOf_float hunderscore hpart (Numeral.ofText?_point h hfraction)]

theorem body_digit {l : Lexeme} (hc : c.isDigit = true) {t : Text}
    (hl : numberLexeme c t = (l, rest)) (depth : Nat) :
    body depth (c :: t) = (l :: (body (l.depth depth) rest).1, (body (l.depth depth) rest).2) := by
  have hspace : isSpace c = false := by
    rw [Bool.eq_false_iff, Ne, isSpace_iff]
    exact notMem_of_isDigit hc (by decide)
  have hquote : ¬ (c = '"' ∨ c = '\'') := by
    rintro (rfl | rfl)
    all_goals exact absurd hc (by decide)
  apply body_lexeme hspace (ending?_eq_none (notMem_of_isDigit hc (by decide)) t)
  simp only [lexeme, longOperator?_eq_none (notMem_of_isDigit hc (by decide)), mark?_of_isDigit hc,
    if_neg hquote, hc, if_true, hl]

end

/-! ## The lexemes of a numeral -/

/-- The lexemes of a numeral without its sign. A point in front of all digits is a mark. -/
def unsignedLexemes (n : Numeral) : List Lexeme :=
  if n.whole = [] then [.dot, wholeLexeme 10 (n.fraction.getD [])]
  else
    match n.fraction with
    | none => [wholeLexeme 10 n.whole]
    | some _ => [.float (.ofNumeral { n with negative := false })]

/-- The lexemes of a numeral. -/
def numberLexemes (n : Numeral) : List Lexeme :=
  if n.negative then .operator .subtract :: unsignedLexemes n else unsignedLexemes n

theorem depth_wholeLexeme {digits : Text} (h : ∀ c ∈ digits, c.isDigit = true) (hne : digits ≠ [])
    (depth : Nat) : (wholeLexeme 10 digits).depth depth = depth := by
  rw [wholeLexeme_digits h hne]
  split <;> rfl

theorem body_whole {c : Char} {digits rest : Text} (h : ∀ d ∈ c :: digits, d.isDigit = true)
    (hrest : Delimits rest) (depth : Nat) :
    body depth (c :: digits ++ rest) =
      (wholeLexeme 10 (c :: digits) :: (body depth rest).1, (body depth rest).2) := by
  have hbody := body_digit (h c List.mem_cons_self) (numberLexeme_whole h hrest) depth
  rwa [depth_wholeLexeme h (List.cons_ne_nil c digits)] at hbody

theorem lexesArgument_unsigned {n : Numeral} (h : n.IsPlain) :
    LexesArgument n.unsignedText (unsignedLexemes n) := by
  intro depth rest hrest
  obtain ⟨negative, whole, fraction, exponent⟩ := n
  obtain ⟨hwhole, hfraction, rfl, hnonempty⟩ := h
  cases whole with
  | nil =>
    cases fraction with
    | none => exact absurd ⟨rfl, rfl⟩ hnonempty
    | some digits =>
      cases digits with
      | nil => exact absurd ⟨rfl, rfl⟩ hnonempty
      | cons c digits =>
        have hdigits : ∀ d ∈ c :: digits, d.isDigit = true := hfraction _ rfl
        have hbody := body_mark (c := '.') (by decide) rfl depth (c :: digits ++ rest)
        have hdepth : Lexeme.dot.depth depth = depth := rfl
        rw [hdepth, body_whole hdigits hrest] at hbody
        exact hbody
  | cons c whole =>
    cases fraction with
    | none =>
      have hbody := body_whole hwhole hrest depth
      simp only [Numeral.unsignedText, unsignedLexemes, List.append_nil]
      exact hbody
    | some digits =>
      have hdigits : ∀ d ∈ digits, d.isDigit = true := hfraction _ rfl
      have hbody := body_digit (hwhole c List.mem_cons_self)
        (numberLexeme_point hwhole hdigits hrest) depth
      simp only [Numeral.unsignedText, unsignedLexemes, List.append_assoc, List.cons_append]
      exact hbody

/-- A minus sign is a mark, unless it stands in front of closing braces. -/
theorem body_minus {t : Text} (h : t.head? ≠ some '\x7d') (depth : Nat) :
    body depth ('-' :: t) = (.operator .subtract :: (body depth t).1, (body depth t).2) := by
  have hend : ending? ('-' :: t) = none := by
    unfold ending?
    split
    all_goals first | rfl | (rename_i he; cases he)
    exact absurd rfl h
  apply body_lexeme (by decide) hend
  simp only [lexeme, longOperator?_eq_none (c := '-') (by decide)]
  rfl

theorem head?_unsignedText {n : Numeral} (h : n.IsPlain) (rest : Text) :
    (n.unsignedText ++ rest).head? ≠ some '\x7d' := by
  obtain ⟨negative, whole, fraction, exponent⟩ := n
  obtain ⟨hwhole, -, -, hnonempty⟩ := h
  intro hhead
  cases whole with
  | nil =>
    cases fraction with
    | none => exact absurd ⟨rfl, rfl⟩ hnonempty
    | some digits => exact absurd (Option.some.inj hhead) (by decide)
  | cons c whole =>
    obtain rfl := Option.some.inj hhead
    exact absurd (hwhole '\x7d' List.mem_cons_self) (by decide)

theorem lexesArgument_number {n : Numeral} (h : n.IsPlain) :
    LexesArgument n.text (numberLexemes n) := by
  intro depth rest hrest
  have hunsigned := lexesArgument_unsigned h depth rest hrest
  cases hn : n.negative with
  | false =>
    rw [Numeral.text, numberLexemes, hn]
    exact hunsigned
  | true =>
    have hbody := body_minus (head?_unsignedText h rest) depth
    rw [Numeral.text, numberLexemes, hn, if_pos rfl, if_pos rfl, List.singleton_append,
      List.cons_append, hbody, hunsigned]
    rfl

/-! ## Reading numbers -/

/-- Can Jinja read this numeral? It needs a digit in front of its point, and a whole number must be
small enough. -/
structure IsReadable (n : Numeral) : Prop where
  leads : n.whole ≠ []
  bounded : n.fraction = none → valueOf n.whole < wholeBound

instance (n : Numeral) : Decidable (IsReadable n) :=
  decidable_of_iff (n.whole ≠ [] ∧ (n.fraction = none → valueOf n.whole < wholeBound))
    ⟨fun h => ⟨h.1, h.2⟩, fun h => ⟨h.leads, h.bounded⟩⟩

/-- The value of a numeral without its sign. -/
def magnitude (n : Numeral) : Value :=
  match n.fraction with
  | none => .whole (valueOf n.whole)
  | some _ => .float (.ofNumeral { n with negative := false })

/-- What a numeral is read as. -/
def Expression.ofNumeral (n : Numeral) : Expression :=
  if n.negative then .negation (.literal (magnitude n)) else .literal (magnitude n)

namespace Expression

open Decimal.Numeral (IsPlain)

variable {n : Numeral}

theorem unsignedLexemes_of_readable (h : n.IsPlain) (hreadable : IsReadable n) :
    (∃ k : Nat, unsignedLexemes n = [.whole k] ∧ magnitude n = .whole k) ∨
      ∃ x, unsignedLexemes n = [.float x] ∧ magnitude n = .float x := by
  obtain ⟨hleads, hbounded⟩ := hreadable
  cases hf : n.fraction with
  | none =>
    refine Or.inl ⟨valueOf n.whole, ?_, by rw [magnitude, hf]⟩
    rw [unsignedLexemes, if_neg hleads, hf]
    simp only [wholeLexeme_digits h.whole hleads, if_pos (hbounded hf)]
  | some digits =>
    refine Or.inr ⟨.ofNumeral { n with negative := false }, ?_, by rw [magnitude, hf]⟩
    rw [unsignedLexemes, if_neg hleads, hf]

theorem unsignedLexemes_of_not_readable (h : n.IsPlain) (hnot : ¬ IsReadable n) :
    (∃ more, unsignedLexemes n = .dot :: more) ∨ unsignedLexemes n = [.bad .syntaxError] := by
  by_cases hleads : n.whole = []
  · exact Or.inl ⟨_, by rw [unsignedLexemes, if_pos hleads]⟩
  · right
    have hunbounded : ¬ (n.fraction = none → valueOf n.whole < wholeBound) :=
      fun hbounded => hnot ⟨hleads, hbounded⟩
    rw [Classical.not_imp] at hunbounded
    obtain ⟨hf, hlarge⟩ := hunbounded
    rw [unsignedLexemes, if_neg hleads, hf]
    simp only [wholeLexeme_digits h.whole hleads, if_neg hlarge]

theorem reads_number (h : n.IsPlain) (hreadable : IsReadable n) :
    Reads (numberLexemes n) (.ofNumeral n) := by
  rw [numberLexemes, Expression.ofNumeral]
  rcases unsignedLexemes_of_readable h hreadable with ⟨k, hl, hv⟩ | ⟨x, hl, hv⟩
  all_goals
    rw [hl, hv]
    cases n.negative
    all_goals exact reads_of_signed (fun _ => ⟨_, rfl⟩) (fun _ => rfl) fun _ _ => rfl

theorem fails_number (h : n.IsPlain) (hnot : ¬ IsReadable n) : Fails (numberLexemes n) := by
  rw [numberLexemes]
  rcases unsignedLexemes_of_not_readable h hnot with ⟨more, hl⟩ | hl
  all_goals
    rw [hl]
    cases n.negative
    all_goals exact fails_of_signed (fun _ => ⟨_, rfl⟩) (fun _ => rfl) fun _ _ => rfl

end Expression

/-! ## Values of numbers -/

/-- The number that a numeral spells: a whole number, or else the float nearest to it. -/
def spelled (n : Numeral) : Value :=
  match n.fraction with
  | none => .whole (if n.negative then -(valueOf n.whole : Int) else valueOf n.whole)
  | some _ => .float (.ofNumeral n)

/-- A natural under a minus sign. At the bound it keeps no sign, and beyond it there is no value. -/
theorem Value.negate_whole (k : Nat) :
    (Value.whole k).negate =
      if k < Decimal.twoTo (wholeBits - 1) then .ok (.whole (-(k : Int)))
      else if k = Decimal.twoTo (wholeBits - 1) then .ok (.whole k)
      else .error .invalidOperation := by
  rw [negate, ofWhole]
  rcases Nat.lt_trichotomy k (Decimal.twoTo (wholeBits - 1)) with hlt | heq | hgt
  · have hne : ¬ (k : Int) = (Decimal.twoTo (wholeBits - 1) : Nat) := by omega
    rw [if_neg hne, if_pos (Decimal.fitsSigned_neg_iff.mpr hlt.le), if_pos hlt]
  · have hsame : (k : Int) = (Decimal.twoTo (wholeBits - 1) : Nat) := by omega
    rw [if_pos hsame, if_neg heq.not_lt, if_pos heq]
  · have hne : ¬ (k : Int) = (Decimal.twoTo (wholeBits - 1) : Nat) := by omega
    have hfits : ¬ Decimal.fitsSigned wholeBits (-(k : Int)) = true :=
      fun h => absurd (Decimal.fitsSigned_neg_iff.mp h) hgt.not_ge
    rw [if_neg hne, if_neg hfits, if_neg hgt.not_gt, if_neg hgt.ne']

theorem Value.negate_whole_eq_ok_iff {k : Nat} :
    (Value.whole k).negate = .ok (.whole (-(k : Int))) ↔ k < Decimal.twoTo (wholeBits - 1) := by
  rw [negate_whole]
  constructor
  · intro h
    by_contra hle
    rw [if_neg hle] at h
    split at h
    · -- a number without its sign is another one, as it is not zero
      rename_i hk
      have hpos : 0 < k := hk ▸ Nat.two_pow_pos _
      have hsame : (k : Int) = -k := Value.whole.inj (Except.ok.inj h)
      omega
    · cases h
  · exact fun h => if_pos h

/-- A number has the value that it spells, exactly if it is not a whole number that is too large for
its minus sign. -/
theorem Expression.value_ofNumeral_iff (context : Json) {n : Numeral} :
    (Expression.ofNumeral n).value context = .ok (spelled n) ↔
      (n.negative = true → n.fraction = none →
        valueOf n.whole < Decimal.twoTo (Value.wholeBits - 1)) := by
  rw [Expression.ofNumeral, spelled, magnitude]
  cases hn : n.negative with
  | false =>
    have hself : { n with negative := false } = n := by
      rw [← hn]
    rw [hself]
    refine iff_of_true ?_ fun hnegative => by cases hnegative
    cases n.fraction <;> rfl
  | true =>
    cases hf : n.fraction with
    | none => exact Value.negate_whole_eq_ok_iff.trans ⟨fun h _ _ => h, fun h => h rfl rfl⟩
    | some digits =>
      have hneg := Decimal.Extended.neg_ofNumeral hn
      rw [hf] at hneg
      refine iff_of_true ?_ fun _ hnone => by cases hnone
      exact congrArg (fun x => Except.ok (Value.float x)) hneg

end Stencil.Jinja
