import Stencil.Arguments
import Stencil.Text.Word
import Stencil.Proofs.Text.Parts

/-!
# Kinds of characters

Blank characters, quotes and the characters of names are kinds apart, and none of the signs of a
chain is a blank character or part of a name.

* `isWord_of_isBlank`: no blank character is a word character, in all of Unicode.
* `isNamePart_of_isNameStart`: what may start a name may continue it.
-/

namespace Stencil.Text

variable {c : Char}

theorem ne_of_true_of_false {p : Char → Bool} {x : Char} (hc : p c = true) (hx : p x = false) :
    c ≠ x := by
  rintro rfl
  rw [hc] at hx
  cases hx

theorem isBlank_of_mem_space : ∀ c ∈ [' '], isBlank c = true :=
  List.forall_mem_singleton.mpr (by decide)

/-! ## Quotes -/

theorem eq_of_isQuote (h : Arguments.isQuote c = true) : c = '"' ∨ c = '\'' := by
  simpa only [Arguments.isQuote, Bool.or_eq_true, beq_iff_eq] using h

theorem isQuote_of_isBlank (h : isBlank c = true) : Arguments.isQuote c = false := by
  cases hq : Arguments.isQuote c with
  | false => rfl
  | true => rcases eq_of_isQuote hq with rfl | rfl <;> exact absurd h (by decide)

/-! ## Word characters -/

/-- A number in one of some ranges is in none of others, if no two of them meet. -/
theorem inRanges_eq_false {ranges ranges' : List (Nat × Nat)} {n : Nat}
    (h : ∀ r ∈ ranges, ∀ r' ∈ ranges', r.2 < r'.1 ∨ r'.2 < r.1) (hn : inRanges ranges n = true) :
    inRanges ranges' n = false := by
  obtain ⟨r, hr, hin⟩ := List.any_eq_true.mp hn
  apply List.any_eq_false.mpr
  intro r' hr' hin'
  simp only [Bool.and_eq_true, decide_eq_true_eq] at hin hin'
  have hapart := h r hr r' hr'
  omega

theorem isWord_of_isBlank (h : isBlank c = true) : isWord c = false := by
  unfold isWord
  split
  · rename_i hc
    exact of_ascii (p := fun c => isBlank c = true → (c.isAlphanum || c == '_') = false)
      (by decide +kernel) hc h
  · exact inRanges_eq_false (by decide +kernel) h

theorem toNat_lt_of_isAlphanum (h : c.isAlphanum = true) : c.toNat < 0x80 := by
  have hupper : c.isUpper = true → c.toNat ≤ 'Z'.toNat := by
    intro h
    exact UInt32.le_iff_toNat_le.mp (of_decide_eq_true h).2
  have hlower : c.isLower = true → c.toNat ≤ 'z'.toNat := by
    intro h
    exact UInt32.le_iff_toNat_le.mp (of_decide_eq_true (Bool.and_eq_true_iff.mp h).2)
  have hdigit : c.isDigit = true → c.toNat ≤ '9'.toNat := by
    intro h
    exact (Char.isDigit_iff_toNat.mp h).2
  have hends : 'Z'.toNat = 90 ∧ 'z'.toNat = 122 ∧ '9'.toNat = 57 := by decide
  rcases Bool.or_eq_true_iff.mp h with h | h
  · rcases Bool.or_eq_true_iff.mp h with h | h
    · have hle := hupper h
      omega
    · have hle := hlower h
      omega
  · have hle := hdigit h
    omega

/-! ## Names -/

theorem isNamePart_of_isAlphanum (h : c.isAlphanum = true) : isNamePart c = true := by
  rw [isNamePart, isWord, if_pos (toNat_lt_of_isAlphanum h), h]
  rfl

theorem isNamePart_of_isNameStart (h : isNameStart c = true) : isNamePart c = true := by
  simp only [isNameStart, Bool.or_eq_true, beq_iff_eq] at h
  rcases h with (h | rfl) | rfl
  · apply isNamePart_of_isAlphanum
    rw [Char.isAlphanum, h, Bool.true_or]
  · decide
  · decide

theorem isBlank_of_isNamePart (h : isNamePart c = true) : isBlank c = false := by
  cases hb : isBlank c with
  | false => rfl
  | true =>
    rw [isNamePart, isWord_of_isBlank hb, Bool.false_or, beq_iff_eq] at h
    rw [h] at hb
    exact absurd hb (by decide)

theorem isQuote_of_isNamePart (h : isNamePart c = true) : Arguments.isQuote c = false := by
  cases hq : Arguments.isQuote c with
  | false => rfl
  | true => rcases eq_of_isQuote hq with rfl | rfl <;> exact absurd h (by decide)

end Stencil.Text
