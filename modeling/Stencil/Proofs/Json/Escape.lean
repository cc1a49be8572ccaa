import Stencil.Json.Lexeme
import Stencil.Json.Printer

/-!
# Escapes and what they stand for

A character inside a string literal has one of three forms: it stands for itself, a letter behind a
backslash names it, or four hexadecimal digits give it.

* `Spelled`: the three forms, each with the piece that a reader sees in it.
* `spelled_escape`: every character is written in one of them.
* `decode?_pieces`: the pieces of a text decode to the text.
-/

namespace Stencil.Json

/-- How a character is written inside a string literal, and the piece that is read there. -/
inductive Spelled (c : Char) : Text → Piece → Prop
  | plain (quote : c ≠ '"') (backslash : c ≠ '\\') (visible : 0x20 ≤ c.toNat) :
      Spelled c [c] (.char c)
  | letter {e : Char} (named : escaped? e = some c) : Spelled c ['\\', e] (.char c)
  | digits {x y : Char} (value : hexUnit? '0' '0' x y = some c.toNat) (control : c.toNat < 0x20) :
      Spelled c ['\\', 'u', '0', '0', x, y] (.unit c.toNat)

/-- The piece that is read where a character was written. -/
def pieceOf (c : Char) : Piece :=
  if c.toNat < 0x20 ∧ c ∉ ['\n', '\r', '\t', '\x08', '\x0c'] then .unit c.toNat else .char c

theorem hexUnit?_hexDigit {n : Nat} (h : n < 0x20) :
    hexUnit? '0' '0' (hexDigit (n / 16)) (hexDigit (n % 16)) = some n := by
  have key : ∀ n < 0x20, hexUnit? '0' '0' (hexDigit (n / 16)) (hexDigit (n % 16)) = some n := by
    decide
  exact key n h

theorem spelled_escape (c : Char) : Spelled c (escape c) (pieceOf c) := by
  by_cases hletter : c ∈ ['"', '\\', '\n', '\r', '\t', '\x08', '\x0c']
  · simp only [List.mem_cons, List.not_mem_nil, or_false] at hletter
    rcases hletter with rfl | rfl | rfl | rfl | rfl | rfl | rfl
    all_goals exact .letter rfl
  · simp only [List.mem_cons, List.not_mem_nil, or_false, not_or] at hletter
    obtain ⟨hq, hb, hn, hr, ht, h8, hc⟩ := hletter
    by_cases hcontrol : c.toNat < 0x20
    · have he : escape c =
          ['\\', 'u', '0', '0', hexDigit (c.toNat / 16), hexDigit (c.toNat % 16)] := by
        simp only [escape, hq, hb, hn, hr, ht, h8, hc, hcontrol, if_true, if_false]
      have hp : pieceOf c = .unit c.toNat := by
        simp [pieceOf, hcontrol, hn, hr, ht, h8, hc]
      rw [he, hp]
      exact .digits (hexUnit?_hexDigit hcontrol) hcontrol
    · have he : escape c = [c] := by
        simp only [escape, hq, hb, hn, hr, ht, h8, hc, hcontrol, if_false]
      have hp : pieceOf c = .char c := if_neg fun h => hcontrol h.1
      rw [he, hp]
      exact .plain hq hb (Nat.not_lt.mp hcontrol)

/-! ## Reading the pieces -/

theorem decode?_pieceOf (c : Char) (more : List Piece) :
    decode? (pieceOf c :: more) = (decode? more).map (c :: ·) := by
  unfold pieceOf
  split
  · rename_i h
    have hhigh : isHighUnit c.toNat = false := by
      simp only [isHighUnit, Bool.and_eq_false_imp, decide_eq_true_eq, decide_eq_false_iff_not]
      omega
    have hlow : isLowUnit c.toNat = false := by
      simp only [isLowUnit, Bool.and_eq_false_imp, decide_eq_true_eq, decide_eq_false_iff_not]
      omega
    -- a unit looks at the piece behind it, but only to complete a pair
    cases more with
    | nil => simp [decode?, hhigh, hlow]
    | cons next more => cases next <;> simp [decode?, hhigh, hlow]
  · rfl

/-- The pieces of a text decode to the text. -/
theorem decode?_pieces (t : Text) : decode? (t.map pieceOf) = some t := by
  induction t with
  | nil => rfl
  | cons c t ih => rw [List.map_cons, decode?_pieceOf, ih, Option.map_some]

/-! ## Characters that need no escape and take no part in one -/

theorem Spelled.notMem {c d : Char} {t : Text} {piece : Piece} (h : Spelled c t piece) (hne : d ≠ c)
    (hd : d ≠ '\\' ∧ d ≠ 'u') (hletter : escaped? d = none) (hdigit : hexValue? d = none) :
    d ∉ t := by
  cases h with
  | plain => exact fun hmem => hne (List.mem_singleton.mp hmem)
  | @letter e named =>
    have he : d ≠ e := by
      rintro rfl
      rw [hletter] at named
      cases named
    simp [hd.1, he]
  | @digits x y value =>
    have h0 : d ≠ '0' := by
      rintro rfl
      cases hdigit
    have hx : d ≠ x := by
      rintro rfl
      simp [hexUnit?, hdigit] at value
    have hy : d ≠ y := by
      rintro rfl
      simp [hexUnit?, hdigit] at value
    simp [hd.1, hd.2, h0, hx, hy]

/-- A sign like this is in a literal only if it is in the text. -/
theorem notMem_literal {d : Char} (hd : d ≠ '"' ∧ d ≠ '\\' ∧ d ≠ 'u')
    (hletter : escaped? d = none) (hdigit : hexValue? d = none) {t : Text} (h : d ∉ t) :
    d ∉ literal t := by
  have hbody : d ∉ t.flatMap escape := by
    intro hmem
    obtain ⟨c, hc, hdc⟩ := List.mem_flatMap.mp hmem
    have hne : d ≠ c := fun he => h (he ▸ hc)
    exact (spelled_escape c).notMem hne hd.2 hletter hdigit hdc
  simp [literal, hd.1, hbody]

end Stencil.Json
