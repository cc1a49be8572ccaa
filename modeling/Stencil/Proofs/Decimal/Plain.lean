import Stencil.Decimal.Extended
import Stencil.Jinja.Conversion
import Mathlib.Data.List.TakeWhile
import Mathlib.Tactic.SplitIfs

/-!
# Plain numerals

A numeral without an exponent and without a plus sign is written with digits, points and minus signs
alone. `Numeral.text` writes it, and `Numeral.eq_text_of_ofText?` says that nothing else of these
characters is read as a numeral. `Extended.neg_ofNumeral` is about the minus sign of a numeral.
-/

namespace Stencil.Decimal

open Jinja (isNumberPart)

theorem spanDigits_append {digits t : Text} (h : ∀ c ∈ digits, c.isDigit = true)
    (ht : ∀ c ∈ t.head?, c.isDigit = false) : spanDigits (digits ++ t) = (digits, t) := by
  have htail : spanDigits t = ([], t) := by
    cases t with
    | nil => rfl
    | cons c t =>
      have hc : c.isDigit = false := ht c rfl
      simp only [spanDigits, List.takeWhile_cons, List.dropWhile_cons, hc, Bool.false_eq_true,
        if_false]
  obtain ⟨hfirst, hsecond⟩ := Prod.mk.inj htail
  rw [spanDigits, List.takeWhile_append_of_pos h, List.dropWhile_append_of_pos h, hfirst, hsecond,
    List.append_nil]

namespace Numeral

/-- The digits and the point of a numeral. -/
def unsignedText (n : Numeral) : Text :=
  n.whole ++ match n.fraction with
    | none => []
    | some digits => '.' :: digits

/-- A numeral as it is written without an exponent. -/
def text (n : Numeral) : Text := (if n.negative then ['-'] else []) ++ n.unsignedText

structure IsPlain (n : Numeral) : Prop where
  whole : ∀ c ∈ n.whole, c.isDigit = true
  fraction : ∀ digits ∈ n.fraction, ∀ c ∈ digits, c.isDigit = true
  exponent : n.exponent = none
  nonempty : ¬ (n.whole = [] ∧ n.fraction.getD [] = [])

/-! ## Behind the sign -/

/-- Reads a numeral behind its sign. -/
def behindSign? (negative : Bool) (t : Text) : Option Numeral :=
  let (whole, t) := spanDigits t
  let (fraction, t) :=
    match t with
    | '.' :: t => (some (spanDigits t).1, (spanDigits t).2)
    | t => (none, t)
  if whole = [] ∧ fraction.getD [] = [] then none
  else
    match takeExponent? t with
    | some (exponent, []) => some ⟨negative, whole, fraction, exponent⟩
    | _ => none

theorem ofText?_minus (t : Text) : ofText? ('-' :: t) = behindSign? true t := rfl

theorem ofText?_of_head? {t : Text} (h : ∀ c ∈ t.head?, c ≠ '-' ∧ c ≠ '+') :
    ofText? t = behindSign? false t := by
  rw [ofText?]
  · rfl
  · rintro t rfl
    exact (h '-' rfl).1 rfl
  · rintro t rfl
    exact (h '+' rfl).2 rfl

section

variable {negative : Bool} {t rest whole : Text}

theorem behindSign?_point (h : spanDigits t = (whole, '.' :: rest)) :
    behindSign? negative t =
      if whole = [] ∧ (spanDigits rest).1 = [] then none
      else
        match takeExponent? (spanDigits rest).2 with
        | some (exponent, []) => some ⟨negative, whole, some (spanDigits rest).1, exponent⟩
        | _ => none := by
  simp only [behindSign?, h, Option.getD_some]

theorem behindSign?_whole (h : spanDigits t = (whole, rest)) (hrest : rest.head? ≠ some '.') :
    behindSign? negative t =
      if whole = [] then none
      else
        match takeExponent? rest with
        | some (exponent, []) => some ⟨negative, whole, none, exponent⟩
        | _ => none := by
  have hpoint : ∀ t, rest = '.' :: t → False := by
    rintro t rfl
    exact hrest rfl
  simp only [behindSign?, h, Option.getD_none, and_true]

end

/-- No exponent is made of number parts, so nothing follows the digits. -/
theorem eq_nil_of_takeExponent? {α : Type} {t : Text} (h : ∀ c ∈ t, isNumberPart c = true)
    {f : Option (Bool × Text) → α} {a : α}
    (ha : (match takeExponent? t with
      | some (exponent, []) => some (f exponent)
      | _ => none) = some a) : t = [] ∧ a = f none := by
  cases t with
  | nil => exact ⟨rfl, (Option.some.inj ha).symm⟩
  | cons c t =>
    have hc : ¬ (c = 'e' ∨ c = 'E') := by
      rintro (rfl | rfl)
      all_goals exact absurd (h _ List.mem_cons_self) (by decide)
    simp only [takeExponent?, if_neg hc, reduceCtorEq] at ha

theorem eq_unsignedText_of_behindSign? {negative : Bool} {t : Text} {n : Numeral}
    (hparts : ∀ c ∈ t, isNumberPart c = true) (h : behindSign? negative t = some n) :
    n.IsPlain ∧ n.negative = negative ∧ t = n.unsignedText := by
  have hspan : spanDigits t = (t.takeWhile Char.isDigit, t.dropWhile Char.isDigit) := rfl
  have hwhole : ∀ c ∈ t.takeWhile Char.isDigit, c.isDigit = true :=
    fun c hc => List.mem_takeWhile_imp hc
  have hrest : ∀ c ∈ t.dropWhile Char.isDigit, isNumberPart c = true :=
    fun c hc => hparts c ((List.dropWhile_sublist _).mem hc)
  have htext : t.takeWhile Char.isDigit ++ t.dropWhile Char.isDigit = t :=
    List.takeWhile_append_dropWhile
  generalize t.takeWhile Char.isDigit = whole at hspan hwhole htext
  generalize t.dropWhile Char.isDigit = rest at hspan hrest htext
  by_cases hpoint : rest.head? = some '.'
  · obtain ⟨after, rfl⟩ := List.head?_eq_some_iff.mp hpoint
    rw [behindSign?_point hspan] at h
    by_cases hnone : whole = [] ∧ (spanDigits after).1 = []
    · rw [if_pos hnone] at h
      cases h
    · rw [if_neg hnone] at h
      have hafter : ∀ c ∈ (spanDigits after).2, isNumberPart c = true := fun c hc =>
        hrest c (List.mem_cons_of_mem _ ((List.dropWhile_sublist _).mem hc))
      obtain ⟨hnil, rfl⟩ := eq_nil_of_takeExponent? hafter h
      have hfraction : (spanDigits after).1 = after := by
        have happend : (spanDigits after).1 ++ (spanDigits after).2 = after :=
          List.takeWhile_append_dropWhile
        rwa [hnil, List.append_nil] at happend
      refine ⟨⟨hwhole, ?_, rfl, hnone⟩, rfl, ?_⟩
      · rintro digits hdigits c hc
        cases hdigits
        exact List.mem_takeWhile_imp hc
      · simp only [unsignedText, hfraction, htext]
  · rw [behindSign?_whole hspan hpoint] at h
    by_cases hnone : whole = []
    · rw [if_pos hnone] at h
      cases h
    · rw [if_neg hnone] at h
      obtain ⟨rfl, rfl⟩ := eq_nil_of_takeExponent? hrest h
      refine ⟨⟨hwhole, ?_, rfl, fun hboth => hnone hboth.1⟩, rfl, ?_⟩
      · rintro digits hdigits
        cases hdigits
      · simp only [unsignedText, htext]

/-! ## Whole texts -/

/-- A numeral of number parts is plain, and this is how it is written. -/
theorem eq_text_of_ofText? {t : Text} {n : Numeral} (hparts : ∀ c ∈ t, isNumberPart c = true)
    (h : ofText? t = some n) : n.IsPlain ∧ t = n.text := by
  by_cases hminus : t.head? = some '-'
  · obtain ⟨more, rfl⟩ := List.head?_eq_some_iff.mp hminus
    rw [ofText?_minus] at h
    obtain ⟨hplain, hnegative, hmore⟩ :=
      eq_unsignedText_of_behindSign? (fun c hc => hparts c (List.mem_cons_of_mem _ hc)) h
    refine ⟨hplain, ?_⟩
    rw [text, hnegative, if_pos rfl, ← hmore]
    rfl
  · have hhead : ∀ c ∈ t.head?, c ≠ '-' ∧ c ≠ '+' := by
      intro c hc
      constructor
      · rintro rfl
        exact hminus hc
      · rintro rfl
        exact absurd (hparts _ (List.mem_of_mem_head? hc)) (by decide)
    rw [ofText?_of_head? hhead] at h
    obtain ⟨hplain, hnegative, ht⟩ := eq_unsignedText_of_behindSign? hparts h
    refine ⟨hplain, ?_⟩
    rw [text, hnegative, ← ht]
    rfl

/-- Digits with a point behind or between them are a numeral without a sign. -/
theorem ofText?_point {c : Char} {whole digits : Text}
    (hwhole : ∀ d ∈ c :: whole, d.isDigit = true) (hdigits : ∀ d ∈ digits, d.isDigit = true) :
    ofText? (c :: whole ++ '.' :: digits) = some ⟨false, c :: whole, some digits, none⟩ := by
  have hspan : spanDigits (c :: whole ++ '.' :: digits) = (c :: whole, '.' :: digits) := by
    apply spanDigits_append hwhole
    rintro d hd
    cases hd
    decide
  have hfraction : spanDigits digits = (digits, []) := by
    have h := spanDigits_append hdigits (t := []) (fun d hd => by cases hd)
    rwa [List.append_nil] at h
  have hhead : ∀ d ∈ (c :: whole ++ '.' :: digits).head?, d ≠ '-' ∧ d ≠ '+' := by
    rintro d hd
    cases hd
    have hc : c.isDigit = true := hwhole c List.mem_cons_self
    constructor
    · rintro rfl
      exact absurd hc (by decide)
    · rintro rfl
      exact absurd hc (by decide)
  rw [ofText?_of_head? hhead, behindSign?_point hspan, hfraction,
    if_neg fun hboth => List.cons_ne_nil _ _ hboth.1]
  rfl

end Numeral

/-! ## Signs -/

theorem Binary64.map_neg_ofRatio (num den : Nat) :
    (ofRatio false num den).map neg = ofRatio true num den := by
  unfold ofRatio
  dsimp only
  split_ifs <;> rfl

theorem Numeral.map_neg_nearest? {n : Numeral} (h : n.negative = true) :
    ({ n with negative := false }.nearest?).map Binary64.neg = n.nearest? := by
  obtain ⟨negative, whole, fraction, exponent⟩ := n
  obtain rfl : negative = true := h
  have hexponent : exponentValue ⟨false, whole, fraction, exponent⟩ =
      exponentValue ⟨true, whole, fraction, exponent⟩ := rfl
  unfold nearest?
  dsimp only
  rw [hexponent]
  split_ifs
  · rfl
  · rfl
  · rfl
  · exact Binary64.map_neg_ofRatio _ _

/-- The sign of a numeral is the sign of its float. -/
theorem Extended.neg_ofNumeral {n : Numeral} (h : n.negative = true) :
    (ofNumeral { n with negative := false }).neg = ofNumeral n := by
  have hnearest := Numeral.map_neg_nearest? h
  rw [ofNumeral, ofNumeral, ← hnearest]
  cases ({ n with negative := false } : Numeral).nearest? with
  | none =>
    rw [h]
    rfl
  | some x => rfl

/-- Below zero there is room for one number more than above. -/
theorem fitsSigned_neg_iff {bits k : Nat} :
    fitsSigned bits (-(k : Int)) = true ↔ k ≤ twoTo (bits - 1) := by
  cases k with
  | zero => exact iff_of_true (decide_eq_true (Nat.two_pow_pos _)) (Nat.zero_le _)
  | succ k => exact decide_eq_true_iff

end Stencil.Decimal
