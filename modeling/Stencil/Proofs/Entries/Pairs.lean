import Stencil.Entries
import Mathlib.Data.List.Induction
import Mathlib.Data.List.Nodup

/-!
# Tables written from pairs

`Entries.ofList` writes pairs into a table, one after the other. The keys of the table are those of
the pairs in order of their first occurrence, and a key has the value of its last occurrence.

* `Entries.keys_ofList`, `Entries.get?_ofList`: the keys and the values of such a table.
* `Entries.ofList_of_nodup`, `Entries.get?_eq_some_iff`: without a repeated key the pairs are the
  table, and each is found under its key.
* `Entries.insert_insert_self`, `Entries.insert_insert_perm`: two pairs written one after the other,
  under one key or under two.
-/

namespace Stencil.Entries

variable {α : Type}

/-- The value of the last pair with a key. -/
def last? (key : Text) (pairs : List (Text × α)) : Option α :=
  ((pairs.filter fun pair => pair.1 = key).getLast?).map Prod.snd

theorem last?_concat (key : Text) (pairs : List (Text × α)) (pair : Text × α) :
    last? key (pairs ++ [pair]) = if pair.1 = key then some pair.2 else last? key pairs := by
  rw [last?, last?, List.filter_append, List.filter_cons, List.filter_nil]
  by_cases h : pair.1 = key <;> simp [h]

theorem mem_of_last? {key : Text} {pairs : List (Text × α)} {value : α}
    (h : last? key pairs = some value) : (key, value) ∈ pairs := by
  obtain ⟨pair, hlast, rfl⟩ := Option.map_eq_some_iff.mp h
  obtain ⟨hmem, hkey⟩ := List.mem_filter.mp (List.mem_of_getLast? hlast)
  rwa [← of_decide_eq_true hkey]

theorem ofList_concat (pairs : List (Text × α)) (pair : Text × α) :
    ofList (pairs ++ [pair]) = insert pair.1 pair.2 (ofList pairs) := by
  rw [ofList, List.foldl_append]
  rfl

theorem get?_ofList (key : Text) (pairs : List (Text × α)) :
    get? key (ofList pairs) = last? key pairs := by
  induction pairs using List.reverseRecOn with
  | nil => rfl
  | append_singleton pairs pair ih =>
    rw [ofList_concat, last?_concat]
    by_cases h : pair.1 = key
    · rw [if_pos h, h, get?_insert_self]
    · rw [if_neg h, get?_insert_of_ne _ _ (Ne.symm h), ih]

theorem eraseDups_concat (l : List Text) (a : Text) :
    (l ++ [a]).eraseDups = if a ∈ l then l.eraseDups else l.eraseDups ++ [a] := by
  rw [List.eraseDups_append, List.removeAll]
  by_cases h : a ∈ l <;> simp [h, List.eraseDups_cons]

theorem keys_ofList (pairs : List (Text × α)) :
    keys (ofList pairs) = (pairs.map Prod.fst).eraseDups := by
  induction pairs using List.reverseRecOn with
  | nil => rfl
  | append_singleton pairs pair ih =>
    rw [ofList_concat, keys_insert, List.map_append, List.map_cons, List.map_nil, eraseDups_concat,
      ih]
    simp only [List.mem_eraseDups]

theorem nodup_keys_insert {table : Entries α} (h : (keys table).Nodup) (key : Text) (value : α) :
    (keys (insert key value table)).Nodup := by
  rw [keys_insert]
  split
  · exact h
  · rename_i hmem
    refine List.nodup_append.mpr ⟨h, List.nodup_singleton key, ?_⟩
    rintro a ha b hb rfl
    exact hmem (List.mem_singleton.mp hb ▸ ha)

theorem nodup_keys_ofList (pairs : List (Text × α)) : (keys (ofList pairs)).Nodup := by
  induction pairs using List.reverseRecOn with
  | nil => exact List.nodup_nil
  | append_singleton pairs pair ih =>
    rw [ofList_concat]
    exact nodup_keys_insert ih _ _

theorem ofList_of_nodup {pairs : List (Text × α)} (h : (keys pairs).Nodup) :
    ofList pairs = pairs := by
  induction pairs using List.reverseRecOn with
  | nil => rfl
  | append_singleton pairs pair ih =>
    rw [keys, List.map_append, List.map_cons, List.map_nil, List.nodup_append] at h
    have hmem : pair.1 ∉ keys pairs := fun hmem => h.2.2 _ hmem _ (List.mem_singleton_self _) rfl
    rw [ofList_concat, ih h.1, insert_of_notMem hmem]

/-- Without a repeated key, each pair is found under its key. -/
theorem get?_eq_some_iff {table : Entries α} (h : (keys table).Nodup) {key : Text} {value : α} :
    get? key table = some value ↔ (key, value) ∈ table := by
  refine ⟨mem_of_get?, ?_⟩
  induction table with
  | nil => exact fun hmem => by cases hmem
  | cons entry more ih =>
    obtain ⟨hfirst, hmore⟩ := List.nodup_cons.mp h
    intro hmem
    rcases List.mem_cons.mp hmem with rfl | hmem
    · rw [get?, if_pos rfl]
    · have hne : entry.1 ≠ key := by
        rintro rfl
        exact hfirst (List.mem_map.mpr ⟨_, hmem, rfl⟩)
      rw [get?, if_neg hne]
      exact ih hmore hmem

/-! ## Two pairs -/

/-- Of two values under the same key, the second one counts. -/
theorem insert_insert_self (key : Text) (value other : α) (table : Entries α) :
    insert key other (insert key value table) = insert key other table := by
  induction table with
  | nil => simp [insert]
  | cons entry more ih =>
    by_cases h : entry.1 = key <;> simp [insert, h, ih]

/-- Where a value is written depends on its key alone. -/
theorem exists_insert (key : Text) (table : Entries α) :
    ∃ front back, ∀ value, insert key value table = front ++ (key, value) :: back := by
  induction table with
  | nil => exact ⟨[], [], fun _ => rfl⟩
  | cons entry more ih =>
    by_cases h : entry.1 = key
    · exact ⟨[], more, fun value => by simp [insert, h]⟩
    · obtain ⟨front, back, hinsert⟩ := ih
      exact ⟨entry :: front, back, fun value => by simp [insert, h, hinsert]⟩

/-- Values under two keys may be written in either order; only the order of new keys shows it. -/
theorem insert_insert_perm {key other : Text} (hne : key ≠ other) (value value' : α)
    (table : Entries α) :
    List.Perm (insert key value (insert other value' table))
      (insert other value' (insert key value table)) := by
  induction table with
  | nil =>
    simp only [insert, hne, hne.symm, if_false]
    exact List.Perm.swap _ _ _
  | cons entry more ih =>
    by_cases hkey : entry.1 = key
    · simp [insert, hkey, hne]
    · by_cases hother : entry.1 = other
      · simp [insert, hother, hne.symm]
      · simp only [insert, hkey, hother, if_false]
        exact ih.cons _

end Stencil.Entries
