import Stencil.Text.Basic

/-!
# Tables in order of arrival

A table is a list of keys and values without a repeated key. A new key goes to the end; a value
written under a key that is there takes the place of the old one.
-/

namespace Stencil

/-- Keys with their values, in the order in which the keys arrived. -/
abbrev Entries (α : Type) := List (Text × α)

namespace Entries

variable {α : Type}

/-- The keys, in order of arrival. -/
def keys (table : Entries α) : List Text := List.map Prod.fst table

/-- The value under a key. -/
def get? (key : Text) : Entries α → Option α
  | [] => none
  | (k, v) :: more => if k = key then some v else get? key more

/-- Writes a value under a key. -/
def insert (key : Text) (value : α) : Entries α → Entries α
  | [] => [(key, value)]
  | (k, v) :: more =>
    if k = key then (k, value) :: more else (k, v) :: insert key value more

/-- The table that arises when pairs are written one after the other. -/
def ofList (pairs : List (Text × α)) : Entries α :=
  pairs.foldl (fun table pair => insert pair.1 pair.2 table) []

@[simp] theorem get?_insert_self (key : Text) (value : α) (table : Entries α) :
    get? key (insert key value table) = some value := by
  induction table with
  | nil => simp [insert, get?]
  | cons entry more ih =>
    by_cases h : entry.1 = key <;> simp [insert, get?, h, ih]

theorem get?_insert_of_ne {key other : Text} (value : α) (table : Entries α) (h : other ≠ key) :
    get? other (insert key value table) = get? other table := by
  induction table with
  | nil => simp [insert, get?, Ne.symm h]
  | cons entry more ih =>
    by_cases hk : entry.1 = key
    · simp [insert, get?, hk, Ne.symm h]
    · simp [insert, get?, hk, ih]

theorem keys_insert (key : Text) (value : α) (table : Entries α) :
    keys (insert key value table) =
      if key ∈ keys table then keys table else keys table ++ [key] := by
  induction table with
  | nil => simp [insert, keys]
  | cons entry more ih =>
    by_cases h : entry.1 = key
    · simp [insert, keys, h]
    · have hne : ¬ key = entry.1 := fun he => h he.symm
      simp only [keys] at ih
      simp only [insert, h, if_false, keys, List.map_cons, ih, List.mem_cons, hne, false_or]
      by_cases hm : key ∈ List.map Prod.fst more <;> simp [hm]

theorem get?_eq_none_iff {key : Text} {table : Entries α} :
    get? key table = none ↔ key ∉ keys table := by
  induction table with
  | nil => simp [get?, keys]
  | cons entry more ih =>
    by_cases h : entry.1 = key
    · simp [get?, keys, h]
    · simp only [keys] at ih
      simp [get?, keys, h, Ne.symm h, ih]

theorem get?_append (key : Text) (table other : Entries α) :
    get? key (table ++ other) = (get? key table).or (get? key other) := by
  induction table with
  | nil => rfl
  | cons entry more ih =>
    by_cases h : entry.1 = key <;> simp [get?, h, ih]

theorem get?_map {β : Type} (f : α → β) (key : Text) (table : Entries α) :
    get? key (table.map fun entry => (entry.1, f entry.2)) = (get? key table).map f := by
  induction table with
  | nil => rfl
  | cons entry more ih =>
    by_cases h : entry.1 = key <;> simp [get?, h, ih]

theorem mem_of_get? {key : Text} {value : α} {table : Entries α}
    (h : get? key table = some value) : (key, value) ∈ table := by
  induction table with
  | nil => cases h
  | cons entry more ih =>
    by_cases hk : entry.1 = key
    · simp only [get?, hk, if_true, Option.some.injEq] at h
      rw [← hk, ← h]
      exact List.mem_cons_self
    · simp only [get?, hk, if_false] at h
      exact List.mem_cons_of_mem _ (ih h)

theorem mem_of_mem_insert {key : Text} {value : α} {table : Entries α} {entry : Text × α}
    (h : entry ∈ insert key value table) : entry = (key, value) ∨ entry ∈ table := by
  induction table with
  | nil => exact Or.inl (List.mem_singleton.mp h)
  | cons first more ih =>
    by_cases hk : first.1 = key
    · simp only [insert, hk, if_true, List.mem_cons] at h
      rcases h with h | h
      · exact Or.inl h
      · exact Or.inr (List.mem_cons_of_mem _ h)
    · simp only [insert, hk, if_false, List.mem_cons] at h
      rcases h with h | h
      · exact Or.inr (h ▸ List.mem_cons_self)
      · exact (ih h).imp_right (List.mem_cons_of_mem _)

/-- A new key goes to the end. -/
theorem insert_of_notMem {key : Text} {table : Entries α} (h : key ∉ keys table) (value : α) :
    insert key value table = table ++ [(key, value)] := by
  induction table with
  | nil => rfl
  | cons entry more ih =>
    simp only [keys, List.map_cons, List.mem_cons, not_or] at h
    simp only [insert, Ne.symm h.1, if_false, List.cons_append, List.cons.injEq, true_and]
    exact ih h.2

end Entries

end Stencil
