import Stencil.Chain
import Stencil.Delimiters

/-!
# Scanning

`scan` walks a template from left to right and finds its placeholders. A placeholder starts at the
first opener that is left and ends at the first closer behind the opener's first character, so that
the two may overlap; an opener without a closer ends the scan. Scanning never fails: any body gives
a placeholder.

* `Find.first?` finds the first placeholder of a text, and `Find.parts_of_first?` says that its
  parts make up the text.
* `readBody` reads the body of a placeholder.
-/

namespace Stencil

/-! ## Finding a placeholder -/

/-- A placeholder in a text: what stands before it, its body, its fallback text, the whole source
text of it, and what follows. -/
structure Find where
  before : Text
  body : Text
  fallback : Option Text
  raw : Text
  after : Text

/-- The fallback text at the very front of a text, and what follows its closing mark. A fallback
stands on one line. -/
def fallback? (d : Delimiters) (t : Text) : Option (Text × Text) :=
  if d.fallbackOpener = [] ∨ d.fallbackCloser = [] then none
  else
    match Text.after? d.fallbackOpener t with
    | none => none
    | some inner =>
      match Text.cut? d.fallbackCloser inner with
      | none => none
      | some (text, after) => if '\n' ∈ text then none else some (text, after)

theorem eq_of_fallback? {d : Delimiters} {t text after : Text}
    (h : fallback? d t = some (text, after)) :
    t = d.fallbackOpener ++ text ++ d.fallbackCloser ++ after := by
  unfold fallback? at h
  split at h
  · cases h
  · split at h
    · cases h
    · rename_i inner hp
      split at h
      · cases h
      · rename_i text' after' hc
        split at h
        · cases h
        · cases h
          rw [Text.eq_of_after? hp, Text.cut?_eq_some hc]
          simp

/-- The first placeholder of a text. The closer is looked for behind the first character of the
opener, and a body that the closer cuts off is empty. -/
def Find.first? (d : Delimiters) (t : Text) : Option Find :=
  if d.opener = [] ∨ d.closer = [] then none
  else
    match Text.cut? d.opener t with
    | none => none
    | some (before, behind) =>
      match d.opener ++ behind with
      | [] => none
      | c :: rest =>
        match Text.cut? d.closer rest with
        | none => none
        | some (inside, after) =>
          let body := (c :: inside).drop d.opener.length
          let raw := c :: inside ++ d.closer
          match fallback? d after with
          | none => some ⟨before, body, none, raw, after⟩
          | some (text, after) =>
            some ⟨before, body, some text,
              raw ++ d.fallbackOpener ++ text ++ d.fallbackCloser, after⟩

/-- Nothing is lost, and the source text of a placeholder is not empty. -/
theorem Find.parts_of_first? {d : Delimiters} {t : Text} {f : Find} (h : Find.first? d t = some f) :
    t = f.before ++ f.raw ++ f.after ∧ f.raw ≠ [] := by
  unfold Find.first? at h
  split at h
  · cases h
  · split at h
    · cases h
    · rename_i before behind hb
      split at h
      · cases h
      · rename_i c rest hr
        split at h
        · cases h
        · rename_i inside after hc
          have ht : t = before ++ (c :: rest) := by rw [Text.cut?_eq_some hb, ← hr]; simp
          have hrest := Text.cut?_eq_some hc
          simp only at h
          split at h
          · cases h
            simp [ht, hrest]
          · rename_i text after' hf
            cases h
            rw [eq_of_fallback? hf] at hrest
            simp [ht, hrest]

theorem Find.length_after_lt {d : Delimiters} {t : Text} {f : Find} (h : Find.first? d t = some f) :
    f.after.length < t.length := by
  obtain ⟨ht, hne⟩ := Find.parts_of_first? h
  have : f.raw.length ≠ 0 := by simpa using hne
  rw [ht]
  simp only [List.length_append]
  omega

/-! ## Reading a body -/

/-- The scope and the key of a path. A scope stands before the first colon; a blank one is none. -/
def readPath (t : Text) : Option Text × Text :=
  match Text.cut? [':'] t with
  | none => (none, Text.trim t)
  | some (scope, key) =>
    let scope := Text.trim scope
    (if scope = [] then none else some scope, Text.trim key)

/-- Reads the body of a placeholder: a path, and behind the first arrow a chain of calls. -/
def readBody (body : Text) (fallback : Option Text) : Placeholder :=
  match Text.cut? Chain.arrow body with
  | none =>
    let (scope, key) := readPath body
    ⟨scope, key, [], fallback⟩
  | some (path, chain) =>
    let (scope, key) := readPath path
    ⟨scope, key, Chain.read chain, fallback⟩

/-! ## Scanning a text -/

/-- Finds the placeholders of a text that starts at byte `offset` of a template. -/
def scanFrom (d : Delimiters) (offset : Nat) (t : Text) : List Token :=
  match _h : Find.first? d t with
  | none => []
  | some f =>
    let start := offset + f.before.size
    let stop := start + f.raw.size
    ⟨readBody f.body f.fallback, f.raw, start, stop⟩ :: scanFrom d stop f.after
termination_by t.length
decreasing_by exact Find.length_after_lt _h

/-- Finds the placeholders of a template, in source order. -/
def scan (d : Delimiters) (t : Text) : List Token := scanFrom d 0 t

end Stencil
