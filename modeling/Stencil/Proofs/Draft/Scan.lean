import Stencil.Proofs.Draft.Chain

/-!
# Scanning written templates

Scanning undoes writing: the tokens of a written template are the placeholders that were written
into it, with their source texts and their places.

* `Slot.Readable`: what it takes to read a slot back. Every valid slot is readable.
* `readBody_body`: the body of a slot is read back.
* `first?_text`: a slot is the first placeholder of a text that begins with it.
* `scan_text`: the tokens of a template are those of the draft it was written from.
-/

namespace Stencil.Draft

open Text Chain

/-! ## Reading a body back -/

/-- What stands before the calls in the body of a slot. -/
def Slot.path (s : Slot) : Text := ' ' :: (s.scope.getD [] ++ ':' :: s.key)

/-- What it takes to read a slot back: the pieces are found again where they were put together. -/
structure Slot.Readable (s : Slot) : Prop where
  scope : ∀ t ∈ s.scope, t ≠ [] ∧ trim t = t ∧ ':' ∉ t ∧ ¬ arrow <:+: t
  key : trim s.key = s.key ∧ ¬ arrow <:+: s.key
  cuts : s.calls ≠ [] → Cuts .start (s.calls.map Call.text)
  calls : ∀ c ∈ s.calls, readCall c.text = c.toCall
  body : ¬ usual.closer <:+: s.body
  fallback : ∀ t ∈ s.fallback, '\n' ∉ t ∧ ¬ usual.fallbackCloser <:+: t

theorem Slot.Valid.readable {s : Slot} (h : s.Valid) : s.Readable where
  scope := h.scope
  key := h.key
  cuts hne := cuts_calls hne h.calls none
  calls c hc := readCall_text (identifier_of_isName (h.calls c hc).name) (h.calls c hc).args
  body := h.body
  fallback := h.fallback

theorem Slot.scope_getD {s : Slot} (h : s.Readable) :
    trim (s.scope.getD []) = s.scope.getD [] ∧ ':' ∉ s.scope.getD [] ∧
      ¬ arrow <:+: s.scope.getD [] := by
  cases hs : s.scope with
  | none => exact ⟨rfl, List.not_mem_nil, by decide⟩
  | some scope => exact (h.scope scope hs).2

theorem Slot.arrow_path {s : Slot} (h : s.Readable) : ¬ arrow <:+: s.path := by
  intro hm
  have hsplit : s.path = [] ++ ' ' :: (s.scope.getD [] ++ ':' :: s.key) := rfl
  rw [hsplit, infix_append_cons_iff (by decide), infix_append_cons_iff (by decide)] at hm
  rcases hm with hm | hm | hm
  · exact absurd hm (by decide)
  · exact (Slot.scope_getD h).2.2 hm
  · exact h.key.2 hm

/-- The scope and the key are read back, also with a blank text behind the key. -/
theorem Slot.readPath_path {s : Slot} (h : s.Readable) {t : Text} (ht : ∀ c ∈ t, isBlank c = true) :
    readPath (s.path ++ t) = (s.scope, s.key) := by
  obtain ⟨htrim, hcolon, -⟩ := Slot.scope_getD h
  have hfront : ¬ [':'] <:+: ' ' :: s.scope.getD [] := by
    rw [List.singleton_infix_iff, List.mem_cons, not_or]
    exact ⟨by decide, hcolon⟩
  have hcut : cut? [':'] (s.path ++ t) = some (' ' :: s.scope.getD [], s.key ++ t) := by
    have hparts : s.path ++ t = ' ' :: s.scope.getD [] ++ [':'] ++ (s.key ++ t) := by
      simp [Slot.path]
    rw [hparts]
    exact cut?_of_unbordered (by decide) hfront _
  have hscope : trim (' ' :: s.scope.getD []) = s.scope.getD [] := by
    have happend := trimBy_append isBlank_of_mem_space (List.forall_mem_nil _) (s.scope.getD [])
    rw [List.append_nil] at happend
    exact happend.trans htrim
  have hkey : trim (s.key ++ t) = s.key := by
    have happend : trim (s.key ++ t) = trim s.key :=
      trimBy_append (List.forall_mem_nil _) ht s.key
    rw [happend, h.key.1]
  have hread : (if s.scope.getD [] = [] then none else some (s.scope.getD [])) = s.scope := by
    cases hs : s.scope with
    | none => rfl
    | some scope => exact if_neg (h.scope scope hs).1
  simp only [readPath, hcut, hscope, hkey, hread]

theorem Slot.readBody_body {s : Slot} (h : s.Readable) :
    readBody s.body s.fallback = s.content := by
  cases hcalls : s.calls with
  | nil =>
    have hbody : s.body = s.path ++ [' '] := by simp [Slot.body, Slot.path, hcalls]
    have hcut : cut? arrow s.body = none := by
      rw [cut?_eq_none_iff, hbody, infix_append_cons_iff (by decide), not_or]
      exact ⟨Slot.arrow_path h, by decide⟩
    have hpath : readPath s.body = (s.scope, s.key) := by
      rw [hbody]
      exact Slot.readPath_path h isBlank_of_mem_space
    simp only [readBody, hcut, hpath, Slot.content, hcalls, List.map_nil]
  | cons c more =>
    have hbody : s.body = s.path ++ arrow ++ (join arrow (s.calls.map Call.text) ++ [' ']) := by
      simp [Slot.body, Slot.path, hcalls, join_cons, List.flatMap_map]
    have harrow : Unbordered arrow := by decide
    have hcut := cut?_of_unbordered harrow (Slot.arrow_path h)
      (join arrow (s.calls.map Call.text) ++ [' '])
    rw [← hbody] at hcut
    have hpath := Slot.readPath_path h (List.forall_mem_nil _)
    rw [List.append_nil] at hpath
    have hne : s.calls ≠ [] := by simp [hcalls]
    have hchain : Chain.read (join arrow (s.calls.map Call.text) ++ [' ']) =
        s.calls.map Call.toCall := by
      rw [read_join (h.cuts hne), List.map_map]
      exact List.map_congr_left h.calls
    simp only [readBody, hcut, hpath, hchain, Slot.content]

/-! ## Finding a slot -/

/-- The closer of a slot is the first one behind the first character of its opener. -/
theorem Slot.closer_front {s : Slot} (h : s.Readable) :
    ¬ usual.closer <:+: '<' :: '@' :: s.body := by
  intro hm
  have hsplit : '<' :: '@' :: s.body = ['<', '@'] ++ s.body := rfl
  rw [hsplit, Slot.body, infix_append_cons_iff (by decide)] at hm
  rcases hm with hm | hm
  · exact absurd hm (by decide)
  · exact h.body (List.infix_cons hm)

theorem fallbackAt_suffix {text : Text} (hline : '\n' ∉ text) (h : ¬ usual.fallbackCloser <:+: text)
    (after : Text) :
    FallbackAt usual (usual.fallbackOpener ++ text ++ usual.fallbackCloser ++ after) text := by
  have hcloser : Unbordered usual.fallbackCloser := by decide
  exact .of_isFirst (by decide) (by decide) (isFirst_of_unbordered hcloser h after) hline

/-- A slot behind a text without an opener is the first placeholder. -/
theorem Slot.first?_text {s : Slot} {before after : Text} (h : s.Readable)
    (hbefore : ¬ usual.opener <:+: before)
    (hafter : s.fallback = none → ¬ ∃ text, FallbackAt usual after text) :
    Find.first? usual (before ++ s.text ++ after) =
      some ⟨before, s.body, s.fallback, s.text, after⟩ := by
  have hopener : Unbordered usual.opener := by decide
  have hcloser : Unbordered usual.closer := by decide
  have hopens : IsFirst usual.opener (before ++ s.text ++ after) before
      (s.body ++ usual.closer ++ (s.suffix ++ after)) := by
    have hfirst := isFirst_of_unbordered hopener hbefore
      (s.body ++ usual.closer ++ (s.suffix ++ after))
    simpa only [Slot.text, List.append_assoc] using hfirst
  have hcloses := isFirst_of_unbordered hcloser (Slot.closer_front h) (s.suffix ++ after)
  rw [Find.first?_eq_some_iff]
  refine ⟨by decide, by decide, ?_⟩
  cases hf : s.fallback with
  | none =>
    have hsuffix : s.suffix = [] := by rw [Slot.suffix, hf]
    rw [hsuffix, List.nil_append] at hopens hcloses
    have hfind := Find.IsFirst.plain hopens rfl hcloses (hafter hf)
    simpa [Slot.text, hsuffix] using hfind
  | some text =>
    have hsuffix : s.suffix = usual.fallbackOpener ++ text ++ usual.fallbackCloser := by
      rw [Slot.suffix, hf]
    rw [hsuffix] at hopens hcloses
    obtain ⟨hline, hend⟩ := h.fallback text hf
    have hfind := Find.IsFirst.fallback hopens rfl hcloses (fallbackAt_suffix hline hend after)
    simpa [Slot.text, hsuffix] using hfind

/-! ## Scanning a template -/

theorem scanFrom_parts {parts : List (Slot × Text)} (h : Separate parts) {before : Text}
    (hbefore : ¬ usual.opener <:+: before) (e : Nat) :
    scanFrom usual e (before ++ partsText parts) = partsTokens (e + size before) parts := by
  induction parts generalizing before e with
  | nil =>
    apply scanFrom_of_none
    rw [Find.first?_eq_none_iff (by decide) (by decide)]
    left
    simpa [partsText] using hbefore
  | cons part more ih =>
    obtain ⟨slot, after⟩ := part
    obtain ⟨hslot, hafter, hfallback, hmore⟩ := h
    have hfirst := Slot.first?_text hslot.readable hbefore hfallback
    have htext : before ++ partsText ((slot, after) :: more) =
        before ++ slot.text ++ (after ++ partsText more) := by
      simp [partsText]
    rw [htext, scanFrom_of_some hfirst, Slot.readBody_body hslot.readable, ih hmore hafter]
    rfl

/-- Scanning a written template gives the placeholders that were written into it. -/
theorem scan_text (d : Draft) (h : d.Valid) : scan usual d.text = d.tokens := by
  have hscan := scanFrom_parts h.2 h.1 0
  rwa [Nat.zero_add] at hscan

/-- Two slots that touch: one with marks of all kinds inside quotes and a fallback, and one whose
key has a colon, followed by a mark that opens no fallback. -/
def sample : Draft where
  head := "Hi <".toList
  parts :=
    [(⟨some "user".toList, "name".toList,
      [⟨"join".toList,
        [⟨[], [.quoted '"' "a, 'b' -> (\\\"".toList, .plain "->c".toList], [' ']⟩,
          ⟨[' ', ' '], [.quoted '\'' []], []⟩]⟩,
        ⟨"upper".toList, []⟩],
      some "x)".toList⟩, []),
    (⟨none, "12:30".toList, [], none⟩, " [(".toList)]

theorem scan_sample : sample.Valid ∧
    sample.text = ("Hi <<<@ user:name->join(\"a, 'b' -> (\\\"\"->c ,  '')->upper @>>[(x))]" ++
      "<<@ :12:30 @>> [(").toList ∧
    scan usual sample.text = sample.tokens := by
  have h : sample.Valid := by decide +kernel
  exact ⟨h, by decide +kernel, scan_text sample h⟩

end Stencil.Draft
