import Stencil.Proofs.Chain.Splitting

/-!
# Reading the parts of a chain

A part is read as an identifier with an argument list, or else as a call without arguments whose
name is the whole part, blank characters at its ends left out.

* `readCall_cases`: there are no other calls.
* `readCall_name`, `readCall_arguments`: an identifier is read back, alone and with its arguments.
* `read_join`: parts that were joined by arrows are read one by one.
-/

namespace Stencil.Chain

open Text

variable {name rest t part inner : Text}

/-! ## Names -/

/-- The text is one name: it starts like a name and all of it continues one. -/
def Identifier (name : Text) : Prop :=
  ∃ c rest, name = c :: rest ∧ isNameStart c = true ∧ ∀ x ∈ rest, isNamePart x = true

theorem Identifier.isNamePart (h : Identifier name) : ∀ c ∈ name, isNamePart c = true := by
  obtain ⟨c, rest, rfl, hstart, hrest⟩ := h
  exact List.forall_mem_cons.mpr ⟨isNamePart_of_isNameStart hstart, hrest⟩

theorem name?_append (h : Identifier name) (ht : ∀ c ∈ t.head?, isNamePart c = false) :
    name? (name ++ t) = some (name, t) := by
  obtain ⟨c, rest, rfl, hstart, hrest⟩ := h
  have htake : t.takeWhile isNamePart = [] ∧ t.dropWhile isNamePart = t := by
    cases t with
    | nil => exact ⟨rfl, rfl⟩
    | cons x t =>
      have hx := ht x rfl
      simp only [List.takeWhile_cons, List.dropWhile_cons, hx, Bool.false_eq_true, if_false,
        and_self]
  simp only [List.cons_append, name?, hstart, if_true, List.takeWhile_append_of_pos hrest,
    List.dropWhile_append_of_pos hrest, htake.1, htake.2, List.append_nil]

theorem identifier_of_name? (h : name? t = some (name, rest)) :
    Identifier name ∧ t = name ++ rest := by
  cases t with
  | nil => cases h
  | cons c t =>
    rw [name?] at h
    split at h
    · rename_i hstart
      cases h
      refine ⟨⟨c, _, rfl, hstart, fun x hx => List.mem_takeWhile_imp hx⟩, ?_⟩
      rw [List.cons_append, List.takeWhile_append_dropWhile]
    · cases h

theorem parenthesised?_eq_some_iff :
    parenthesised? t = some inner ↔ t = '(' :: (inner ++ [')']) := by
  constructor
  · intro h
    unfold parenthesised? at h
    split at h
    · rename_i t
      split at h
      · rename_i hlast
        cases h
        obtain ⟨front, rfl⟩ := List.getLast?_eq_some_iff.mp hlast
        rw [List.dropLast_concat]
      · cases h
    · cases h
  · rintro rfl
    rw [parenthesised?, List.getLast?_concat, if_pos rfl, List.dropLast_concat]

/-! ## Calls -/

theorem readCall_trim (part : Text) : readCall (trim part) = readCall part := by
  have htrim : trim (trim part) = trim part := trimBy_trimBy part
  rw [readCall, htrim, readCall]

theorem readCall_append_blank (ht : ∀ c ∈ t, isBlank c = true) :
    readCall (part ++ t) = readCall part := by
  have htrim : trim (part ++ t) = trim part := trimBy_append (List.forall_mem_nil _) ht part
  rw [← readCall_trim, htrim, readCall_trim]

theorem readCall_name (h : Identifier name) : readCall name = ⟨name, []⟩ := by
  have htrim : trim name = name :=
    trimBy_of_forall fun c hc => isBlank_of_isNamePart (h.isNamePart c hc)
  have hname := name?_append (t := []) h (fun _ hx => by cases hx)
  rw [List.append_nil] at hname
  simp only [readCall, htrim, hname]

theorem trim_arguments (h : Identifier name) (inner : Text) :
    trim (name ++ '(' :: (inner ++ [')'])) = name ++ '(' :: (inner ++ [')']) := by
  apply trimBy_eq_self
  · intro c hc
    obtain ⟨x, rest, rfl, hstart, -⟩ := h
    obtain rfl := Option.some.inj hc
    exact isBlank_of_isNamePart (isNamePart_of_isNameStart hstart)
  · intro c hc
    rw [← List.cons_append, ← List.append_assoc, List.getLast?_concat] at hc
    obtain rfl := Option.some.inj hc
    decide

theorem readCall_arguments (h : Identifier name) (inner : Text) :
    readCall (name ++ '(' :: (inner ++ [')'])) = ⟨name, Arguments.read inner⟩ := by
  have hname := name?_append (t := '(' :: (inner ++ [')'])) h
    (fun c hc => by obtain rfl := Option.some.inj hc; decide)
  have hinner : parenthesised? ('(' :: (inner ++ [')'])) = some inner :=
    parenthesised?_eq_some_iff.mpr rfl
  simp only [readCall, trim_arguments h inner, hname, hinner]

/-- A call is the whole of its part, or an identifier with an argument list. -/
theorem readCall_cases (part : Text) : readCall part = ⟨trim part, []⟩ ∨
    ∃ name inner, Identifier name ∧ trim part = name ++ '(' :: (inner ++ [')']) ∧
      readCall part = ⟨name, Arguments.read inner⟩ := by
  cases hname : name? (trim part) with
  | none =>
    left
    simp only [readCall, hname]
  | some found =>
    obtain ⟨name, rest⟩ := found
    obtain ⟨hid, hparts⟩ := identifier_of_name? hname
    cases rest with
    | nil =>
      left
      rw [List.append_nil] at hparts
      simp only [readCall, hname]
      rw [hparts]
    | cons c rest =>
      cases hinner : parenthesised? (c :: rest) with
      | none =>
        left
        simp only [readCall, hname, hinner]
      | some inner =>
        right
        refine ⟨name, inner, hid, ?_, ?_⟩
        · rw [hparts, parenthesised?_eq_some_iff.mp hinner]
        · simp only [readCall, hname, hinner]

theorem isInfix_name_readCall (part : Text) : (readCall part).name <:+: part := by
  have htrim := infix_trimBy isBlank part
  rcases readCall_cases part with hread | ⟨name, inner, -, hparts, hread⟩
  · rw [hread]
    exact htrim
  · rw [hread]
    have hname : name <+: trim part := by
      rw [hparts]
      exact List.prefix_append _ _
    exact hname.isInfix.trans htrim

/-! ## Chains -/

theorem exists_part_of_mem_read {c : Call} (h : c ∈ Chain.read t) :
    ∃ part, part <:+: t ∧ c = readCall part := by
  obtain ⟨part, hpart, rfl⟩ := List.mem_map.mp h
  refine ⟨part, ?_, rfl⟩
  rw [← join_splitFrom .start t]
  exact infix_join hpart

/-- Parts that were joined by arrows are read one by one, also in front of a blank character. -/
theorem read_join {parts : List Text} (h : Cuts .start parts) :
    Chain.read (join arrow parts ++ [' ']) = parts.map readCall := by
  obtain ⟨front, last, hsplit, hsplit'⟩ :=
    splitFrom_append_singleton (c := ' ') (by decide) .start (join arrow parts)
  rw [splitFrom_join h] at hsplit
  have hlast : readCall (last ++ [' ']) = readCall last :=
    readCall_append_blank isBlank_of_mem_space
  rw [Chain.read, Chain.split, hsplit', hsplit, List.map_append, List.map_append,
    List.map_singleton, List.map_singleton, hlast]

end Stencil.Chain
