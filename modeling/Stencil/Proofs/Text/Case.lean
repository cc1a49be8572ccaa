import Stencil.Text.Case
import Stencil.Proofs.Text.Parts

/-!
# Signs and case

No mapping between upper and lower case gives a sign that stands before the letters in ASCII, unless
the sign was there before. So a text without the sign stays without it.

* `mem_mapCase`: what a table gives is a letter or the character itself.
* `IsSign.notMem_upper`, `IsSign.notMem_lower`, `IsSign.notMem_capitalize`: no sign appears.
-/

namespace Stencil.Text

/-- A sign that stands before the letters in ASCII. -/
def IsSign (c : Char) : Prop := 0 < c.toNat ∧ c.toNat < 0x41

theorem toNat_ofNat_cases (n : Nat) :
    (Char.ofNat n).toNat = n ∨ (Char.ofNat n).toNat = 0 := by
  by_cases h : n.isValidChar
  · rw [Char.ofNat, dif_pos h]
    exact Or.inl rfl
  · rw [Char.ofNat, dif_neg h]
    exact Or.inr rfl

theorem IsSign.ne_ofNat {c : Char} (hc : IsSign c) {n : Nat} (hn : 0x41 ≤ n) :
    c ≠ Char.ofNat n := by
  rintro rfl
  obtain ⟨hpos, hlt⟩ := hc
  rcases toNat_ofNat_cases n with h | h <;> omega

/-! ## Tables -/

/-- A table that leads to letters only. -/
structure IsLettered (expansions : List (Nat × List Nat)) (runs : List Run) : Prop where
  expansions : ∀ e ∈ expansions, ∀ n ∈ e.2, 0x41 ≤ n
  runs : ∀ r ∈ runs, 0x41 ≤ (r.first : Int) + r.shift

theorem upper_isLettered : IsLettered upperExpansions upperRuns :=
  ⟨by decide +kernel, by decide +kernel⟩

theorem lower_isLettered : IsLettered lowerExpansions lowerRuns :=
  ⟨by decide +kernel, by decide +kernel⟩

theorem Run.le_of_move? {r : Run} {n m : Nat} (h : r.move? n = some m)
    (hr : 0x41 ≤ (r.first : Int) + r.shift) : 0x41 ≤ m := by
  unfold Run.move? at h
  split at h
  · rename_i hn
    cases h
    omega
  · cases h

theorem mem_mapCase {expansions : List (Nat × List Nat)} {runs : List Run}
    (h : IsLettered expansions runs) {c d : Char} (hc : c ∈ mapCase expansions runs d) :
    c = d ∨ ∃ n, 0x41 ≤ n ∧ c = Char.ofNat n := by
  unfold mapCase at hc
  split at hc
  · rename_i e he
    obtain ⟨n, hn, rfl⟩ := List.mem_map.mp hc
    exact Or.inr ⟨n, h.expansions e (List.mem_of_find?_eq_some he) n hn, rfl⟩
  · split at hc
    · rename_i n hn
      obtain ⟨r, hr, hm⟩ := List.exists_of_findSome?_eq_some hn
      exact Or.inr ⟨n, Run.le_of_move? hm (h.runs r hr), List.mem_singleton.mp hc⟩
    · exact Or.inl (List.mem_singleton.mp hc)

/-! ## Characters -/

theorem toUpper_of_ascii {d : Char} (h : d.toNat < 0x80) :
    d.toUpper = d ∨ 0x41 ≤ d.toUpper.toNat :=
  of_ascii (p := fun d => d.toUpper = d ∨ 0x41 ≤ d.toUpper.toNat) (by decide) h

theorem toLower_of_ascii {d : Char} (h : d.toNat < 0x80) :
    d.toLower = d ∨ 0x41 ≤ d.toLower.toNat :=
  of_ascii (p := fun d => d.toLower = d ∨ 0x41 ≤ d.toLower.toNat) (by decide) h

variable {c d : Char}

theorem IsSign.eq_of_mem_mapCase (hc : IsSign c) {expansions : List (Nat × List Nat)}
    {runs : List Run} (ht : IsLettered expansions runs) (h : c ∈ mapCase expansions runs d) :
    c = d := by
  rcases mem_mapCase ht h with h | ⟨n, hn, h⟩
  · exact h
  · exact absurd h (hc.ne_ofNat hn)

theorem IsSign.eq_of_mem_upperChar (hc : IsSign c) (h : c ∈ upperChar d) : c = d := by
  unfold upperChar at h
  split at h
  · rename_i hd
    obtain rfl := List.mem_singleton.mp h
    rcases toUpper_of_ascii hd with he | hge
    · exact he
    · exact absurd hc.2 (Nat.not_lt.mpr hge)
  · exact hc.eq_of_mem_mapCase upper_isLettered h

theorem IsSign.eq_of_mem_lowerChar (hc : IsSign c) (h : c ∈ lowerChar d) : c = d := by
  unfold lowerChar at h
  split at h
  · rename_i hd
    obtain rfl := List.mem_singleton.mp h
    rcases toLower_of_ascii hd with he | hge
    · exact he
    · exact absurd hc.2 (Nat.not_lt.mpr hge)
  · exact hc.eq_of_mem_mapCase lower_isLettered h

/-! ## Texts -/

variable {t : Text}

theorem IsSign.notMem_upper (hc : IsSign c) (h : c ∉ t) : c ∉ upper t := by
  intro hmem
  obtain ⟨d, hd, hcd⟩ := List.mem_flatMap.mp hmem
  rw [hc.eq_of_mem_upperChar hcd] at h
  exact h hd

theorem IsSign.notMem_lowerAfter (hc : IsSign c) (h : c ∉ t) (before : Text) :
    c ∉ lowerAfter before t := by
  induction t generalizing before with
  | nil => exact h
  | cons d t ih =>
    rw [List.mem_cons, not_or] at h
    intro hmem
    rcases List.mem_append.mp hmem with hd | ht
    · split at hd
      · refine hc.ne_ofNat ?_ (List.mem_singleton.mp hd)
        split <;> decide
      · exact h.1 (hc.eq_of_mem_lowerChar hd)
    · exact ih h.2 (d :: before) ht

theorem IsSign.notMem_lower (hc : IsSign c) (h : c ∉ t) : c ∉ lower t :=
  hc.notMem_lowerAfter h []

theorem IsSign.notMem_capitalize (hc : IsSign c) (h : c ∉ t) : c ∉ capitalize t := by
  cases t with
  | nil => exact h
  | cons d t =>
    rw [List.mem_cons, not_or] at h
    intro hmem
    rcases List.mem_append.mp hmem with hd | ht
    · exact h.1 (hc.eq_of_mem_upperChar hd)
    · exact hc.notMem_lower h.2 ht

end Stencil.Text
