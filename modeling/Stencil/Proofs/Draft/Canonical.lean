import Stencil.Proofs.Draft.Scan
import Stencil.Proofs.Scan.Body
import Stencil.Proofs.Scan.Source

/-!
# The canonical form of a placeholder

Whatever stands in a template, each placeholder that a scan finds there can be written in one
canonical form: one space at both ends of the body and none inside, a call without arguments as its
bare name, and every character of an argument in quotes of its own. Nothing is lost by rewriting a
placeholder like this, although its calls may have names that were never meant as names.

* `Slot.ofPlaceholder` is the slot that is written, and `Placeholder.canonical` its text.
* `Cuts.rewritten`: rewriting the parts of a chain moves none of its cuts.
* `Slot.readable_ofPlaceholder`: the body of a found placeholder can be read back when rewritten.
* `scan_canonical`: scanning the canonical form gives the placeholder again, and nothing else.
-/

namespace Stencil.Draft

open Text Chain

/-! ## The canonical form -/

/-- A backslash stands bare, a double quote in single quotes, and any other character in double
quotes. -/
def Segment.ofChar (c : Char) : Segment :=
  if c = '\\' then .plain [c]
  else if c = '"' then .quoted '\'' [c]
  else .quoted '"' [c]

def Argument.ofText (t : Text) : Argument :=
  ⟨[], if t = [] then [.quoted '"' []] else t.map Segment.ofChar, []⟩

def Call.ofCall (c : Stencil.Call) : Call := ⟨c.name, c.args.map Argument.ofText⟩

def Slot.ofPlaceholder (p : Placeholder) : Slot :=
  ⟨p.scope, p.key, p.calls.map Call.ofCall, p.fallback⟩

end Stencil.Draft

namespace Stencil

/-- The source text of a placeholder in canonical form. -/
def Placeholder.canonical (p : Placeholder) : Text := (Draft.Slot.ofPlaceholder p).text

end Stencil

namespace Stencil.Draft

open Text Chain

variable {s t part : Text} {last last' : Option Char}

theorem Segment.valid_ofChar (c : Char) : (Segment.ofChar c).Valid := by
  unfold Segment.ofChar
  split
  · rename_i hc
    rw [hc]
    decide
  · rename_i hback
    split
    · rename_i hc
      rw [hc]
      decide
    · rename_i hquote
      refine ⟨by decide, ?_, ?_⟩
      · intro p hp
        have hmem : '"' ∈ [c] := hp.subset (by simp)
        exact absurd (List.mem_singleton.mp hmem).symm hquote
      · simpa using hback

theorem Segment.value_ofChar (c : Char) : (Segment.ofChar c).value = [c] := by
  unfold Segment.ofChar
  split
  · rfl
  · split <;> rfl

theorem Argument.valid_ofText (t : Text) : (Argument.ofText t).Valid where
  before := List.forall_mem_nil _
  segments_ne_nil := by
    unfold Argument.ofText
    cases t with
    | nil => exact List.cons_ne_nil _ _
    | cons c t => exact List.cons_ne_nil _ _
  segments := by
    unfold Argument.ofText
    intro s hs
    split at hs
    · rw [List.mem_singleton.mp hs]
      decide
    · obtain ⟨c, -, rfl⟩ := List.mem_map.mp hs
      exact Segment.valid_ofChar c
  after := List.forall_mem_nil _

theorem Argument.value_ofText (t : Text) : (Argument.ofText t).value = t := by
  unfold Argument.ofText Argument.value
  split
  · rename_i ht
    rw [ht]
    rfl
  · rw [List.flatMap_map]
    simp only [Segment.value_ofChar, List.flatMap_singleton']

theorem Call.valid_args_ofCall (c : Stencil.Call) : ∀ a ∈ (Call.ofCall c).args, a.Valid := by
  intro a ha
  obtain ⟨t, -, rfl⟩ := List.mem_map.mp ha
  exact Argument.valid_ofText t

theorem Call.toCall_ofCall (c : Stencil.Call) : (Call.ofCall c).toCall = c := by
  have hargs : (c.args.map Argument.ofText).map Argument.value = c.args := by
    rw [List.map_map]
    exact List.map_id'' Argument.value_ofText c.args
  rw [Call.toCall, Call.ofCall, hargs]

theorem Slot.content_ofPlaceholder (p : Placeholder) : (Slot.ofPlaceholder p).content = p := by
  have hcalls : (p.calls.map Call.ofCall).map Call.toCall = p.calls := by
    rw [List.map_map]
    exact List.map_id'' Call.toCall_ofCall p.calls
  rw [Slot.content, Slot.ofPlaceholder, hcalls]

/-! ## Rewriting a part of a chain -/

/-- A part of a chain, read as a call and written in canonical form. -/
def rewritten (part : Text) : Text := (Call.ofCall (readCall part)).text

/-- A part that is not read as an identifier with arguments stays as it is, up to its ends. -/
theorem rewritten_cases (part : Text) : rewritten part = trim part ∨
    Identifier (readCall part).name := by
  rcases readCall_cases part with hread | ⟨name, inner, hname, -, hread⟩
  · left
    rw [rewritten, hread, Call.ofCall, Call.text]
    exact if_pos rfl
  · right
    rw [hread]
    exact hname

theorem readCall_rewritten (part : Text) : readCall (rewritten part) = readCall part := by
  rcases rewritten_cases part with htrim | hname
  · rw [htrim, readCall_trim]
  · have hread := readCall_text (c := Call.ofCall (readCall part)) hname
      (Call.valid_args_ofCall _)
    rw [rewritten, hread, Call.toCall_ofCall]

theorem closed_of_identifier (h : Identifier (readCall part).name) (last : Option Char) :
    Closed ⟨0, none, last⟩ (rewritten part) :=
  (Call.crosses (c := Call.ofCall (readCall part)) h (Call.valid_args_ofCall _)).closed last

theorem Whole.rewritten (h : Whole ⟨0, none, last⟩ part) :
    Whole ⟨0, none, last'⟩ (rewritten part) := by
  rcases rewritten_cases part with htrim | hname
  · rw [htrim]
    exact h.trim
  · exact (closed_of_identifier hname last').whole

theorem Closed.rewritten (h : Closed ⟨0, none, last⟩ part) :
    Closed ⟨0, none, last'⟩ (rewritten part) := by
  rcases rewritten_cases part with htrim | hname
  · rw [htrim]
    exact h.trim
  · exact closed_of_identifier hname last'

/-- The cuts of a chain stay where they are when its parts are rewritten. -/
theorem Cuts.rewritten {parts : List Text} (h : Cuts ⟨0, none, last⟩ parts) :
    Cuts ⟨0, none, last⟩ (parts.map rewritten) := by
  induction parts generalizing last with
  | nil => exact h.elim
  | cons part more ih =>
    cases more with
    | nil => exact Whole.rewritten h
    | cons next more => exact ⟨Closed.rewritten h.1, ih h.2⟩

/-! ## The closer -/

/-- The text does not close a placeholder. -/
def Unclosed (t : Text) : Prop := ¬ usual.closer <:+: t

theorem Unclosed.of_isInfix (h : Unclosed t) (hs : s <:+: t) : Unclosed s :=
  fun hm => h (hm.trans hs)

theorem unclosed_append_cons_iff {c : Char} (hc : c ∉ usual.closer) :
    Unclosed (s ++ c :: t) ↔ Unclosed s ∧ Unclosed t := by
  rw [Unclosed, infix_append_cons_iff hc, not_or]
  rfl

theorem unclosed_cons_iff {c : Char} (hc : c ≠ '@') : Unclosed (c :: t) ↔ Unclosed t := by
  have hprefix : ¬ usual.closer <+: c :: t := by
    intro hp
    exact hc (List.cons_prefix_cons.mp hp).1.symm
  rw [Unclosed, List.infix_cons_iff, not_or]
  exact and_iff_right hprefix

theorem unclosed_of_length_lt (h : t.length < 3) : Unclosed t := by
  intro hm
  have hlen := hm.length_le
  have hthree : usual.closer.length = 3 := rfl
  omega

/-- No character of an argument stands beside another one, so none of them can close. -/
theorem unclosed_segments (t : Text) (h : Unclosed s) :
    Unclosed ((t.map Segment.ofChar).flatMap Segment.text ++ s) := by
  induction t with
  | nil => exact h
  | cons c t ih =>
    rw [List.map_cons, List.flatMap_cons, List.append_assoc]
    have hquoted : ∀ q, Arguments.isQuote q = true →
        Unclosed ((Segment.quoted q [c]).text ++
          ((t.map Segment.ofChar).flatMap Segment.text ++ s)) := by
      intro q hq
      have hnotin : q ∉ usual.closer := by rcases eq_of_isQuote hq with rfl | rfl <;> decide
      have htext : (Segment.quoted q [c]).text ++
          ((t.map Segment.ofChar).flatMap Segment.text ++ s) =
            [q, c] ++ q :: ((t.map Segment.ofChar).flatMap Segment.text ++ s) := rfl
      rw [htext, unclosed_append_cons_iff hnotin]
      exact ⟨unclosed_of_length_lt (Nat.lt_succ_self 2), ih⟩
    unfold Segment.ofChar
    split
    · rename_i hc
      rw [hc]
      exact (unclosed_cons_iff (by decide)).mpr ih
    · split
      · exact hquoted '\'' rfl
      · exact hquoted '"' rfl

theorem unclosed_argument (t : Text) (h : Unclosed s) :
    Unclosed ((Argument.ofText t).text ++ s) := by
  unfold Argument.ofText Argument.text
  rw [List.nil_append, List.append_nil]
  split
  · rw [List.flatMap_singleton, Segment.text]
    exact (unclosed_cons_iff (by decide)).mpr ((unclosed_cons_iff (by decide)).mpr h)
  · exact unclosed_segments t h

theorem unclosed_arguments (args : List Text) (h : Unclosed s) :
    Unclosed (join [','] ((args.map Argument.ofText).map Argument.text) ++ s) := by
  induction args with
  | nil => exact h
  | cons t more ih =>
    cases more with
    | nil => exact unclosed_argument t h
    | cons next more =>
      rw [List.map_cons, List.map_cons, join, List.append_assoc, List.append_assoc]
      · exact unclosed_argument t ((unclosed_cons_iff (by decide)).mpr ih)
      · exact List.cons_ne_nil _ _

theorem unclosed_call {c : Stencil.Call} (h : Unclosed c.name) : Unclosed (Call.ofCall c).text := by
  unfold Call.ofCall Call.text
  split
  · exact h
  · rw [unclosed_append_cons_iff (by decide)]
    exact ⟨h, unclosed_arguments c.args (unclosed_of_length_lt (by decide))⟩

/-- Behind a text that does not close, neither do calls: an arrow is no part of a closer. -/
theorem unclosed_calls {calls : List Call} (h : ∀ c ∈ calls, Unclosed c.text) (hs : Unclosed s) :
    Unclosed (s ++ (calls.flatMap (fun c => arrow ++ c.text) ++ [' '])) := by
  induction calls generalizing s with
  | nil =>
    rw [List.flatMap_nil, List.nil_append, unclosed_append_cons_iff (by decide)]
    exact ⟨hs, unclosed_of_length_lt (by decide)⟩
  | cons c more ih =>
    have hc := h c List.mem_cons_self
    have htail := ih (fun d hd => h d (List.mem_cons_of_mem _ hd)) hc
    rw [List.flatMap_cons, List.append_assoc, List.append_assoc, arrow, List.cons_append,
      unclosed_append_cons_iff (by decide)]
    exact ⟨hs, (unclosed_cons_iff (by decide)).mpr htail⟩

theorem Slot.unclosed_body {s : Slot} (hscope : Unclosed (s.scope.getD [])) (hkey : Unclosed s.key)
    (hcalls : ∀ c ∈ s.calls, Unclosed c.text) : Unclosed s.body := by
  rw [Slot.body, unclosed_cons_iff (by decide), List.append_assoc, List.append_assoc,
    List.cons_append, unclosed_append_cons_iff (by decide)]
  exact ⟨hscope, unclosed_calls hcalls hkey⟩

/-! ## Reading it back -/

/-- The body of a found placeholder can be read back when it is rewritten. -/
theorem Slot.readable_ofPlaceholder {body : Text} {fallback : Option Text} (hbody : Unclosed body)
    (hfallback : ∀ text ∈ fallback, '\n' ∉ text ∧ ¬ usual.fallbackCloser <:+: text) :
    (Slot.ofPlaceholder (readBody body fallback)).Readable := by
  obtain ⟨path, calls, hread, hpath, harrow, hcalls⟩ := exists_readBody body fallback
  rw [hread]
  have hpart : ∀ c ∈ calls, ∃ part, part <:+: body ∧ c = readCall part := by
    intro c hc
    rcases hcalls with rfl | ⟨chain, hchain, rfl⟩
    · cases hc
    · obtain ⟨part, hin, hcall⟩ := exists_part_of_mem_read hc
      exact ⟨part, hin.trans hchain, hcall⟩
  have hscope := @scope_readPath path
  obtain ⟨hkey, hkeyin⟩ := @key_readPath path
  refine ⟨?_, ⟨hkey, fun h => harrow (h.trans hkeyin)⟩, ?_, ?_, ?_, hfallback⟩
  · intro scope hin
    obtain ⟨hne, htrim, hcolon, hscopein⟩ := hscope scope hin
    exact ⟨hne, htrim, hcolon, fun h => harrow (h.trans hscopein)⟩
  · intro hne
    rcases hcalls with rfl | ⟨chain, -, rfl⟩
    · exact absurd rfl hne
    · have hcuts := Cuts.rewritten (cuts_splitFrom .start chain)
      rw [Slot.ofPlaceholder, Chain.read, List.map_map, List.map_map]
      exact hcuts
  · intro d hd
    obtain ⟨c, hc, rfl⟩ := List.mem_map.mp hd
    obtain ⟨part, -, rfl⟩ := hpart c hc
    rw [Call.toCall_ofCall]
    exact readCall_rewritten part
  · have hcallTexts : ∀ d ∈ calls.map Call.ofCall, Unclosed d.text := by
      intro d hd
      obtain ⟨c, hc, rfl⟩ := List.mem_map.mp hd
      obtain ⟨part, hin, rfl⟩ := hpart c hc
      exact unclosed_call (hbody.of_isInfix ((isInfix_name_readCall part).trans hin))
    have hscopeText : Unclosed ((readPath path).1.getD []) := by
      cases h : (readPath path).1 with
      | none => exact unclosed_of_length_lt (by decide)
      | some scope => exact hbody.of_isInfix ((hscope scope h).2.2.2.trans hpath)
    have hkeyText : Unclosed (readPath path).2 := hbody.of_isInfix (hkeyin.trans hpath)
    exact Slot.unclosed_body hscopeText hkeyText hcallTexts

/-! ## Scanning the canonical form -/

theorem scan_slot {s : Slot} (h : s.Readable) :
    scan usual s.text = [⟨s.content, s.text, 0, size s.text⟩] := by
  have hafter : s.fallback = none → ¬ ∃ text, FallbackAt usual [] text := by
    rintro - ⟨text, hat⟩
    obtain ⟨after, hparts⟩ := hat.stands
    cases hparts
  have hnil : ¬ usual.opener <:+: [] := by decide
  have hfirst := Slot.first?_text h hnil hafter
  rw [List.nil_append, List.append_nil] at hfirst
  have hrest : Find.first? usual [] = none :=
    (Find.first?_eq_none_iff (by decide) (by decide)).mpr (Or.inl hnil)
  rw [scan, scanFrom_of_some hfirst, scanFrom_of_none hrest, Slot.readBody_body h]
  simp only [size_nil, Nat.zero_add]

/-- Rewriting a found placeholder in canonical form loses nothing: scanning the canonical form gives
one token, which is all of the text and says the same. -/
theorem scan_canonical {input : Text} {token : Token} (h : token ∈ scan usual input) :
    scan usual token.canonical =
      [⟨token.toPlaceholder, token.canonical, 0, size token.canonical⟩] := by
  obtain ⟨rest, f, hf, -, hcontent⟩ := exists_isFirst_of_mem_scanFrom h
  have hbody : Unclosed f.body := hf.not_isInfix_body (by decide) (by decide)
  have hreadable := Slot.readable_ofPlaceholder hbody hf.notMem_fallback
  rw [← hcontent] at hreadable
  have hscan := scan_slot hreadable
  rwa [Slot.content_ofPlaceholder] at hscan

/-- A placeholder with a colon in its key, all kinds of signs in its arguments, a call without a
name, one that closes a parenthesis which was never opened, and one whose region never ends. -/
def odd : Token where
  scope := some ['a']
  key := "b:c-".toList
  calls := [⟨"join".toList, ["it's".toList, "say \"".toList, "x\\y".toList]⟩, ⟨[], []⟩,
    ⟨"2\"nd)".toList, []⟩, ⟨"(' ->".toList, []⟩]
  fallback := some "no".toList
  raw := "<<@ a : b:c- ->join(\"it's\", 'say \"', x\\y)-> ->2\"nd)->(' -> @>>[(no)]".toList
  start := 3
  stop := 71

theorem scan_canonical_odd : odd ∈ scan usual ("Hi ".toList ++ odd.raw ++ ['!']) ∧
    odd.canonical = ("<<@ a:b:c-->join(\"i\"\"t\"\"'\"\"s\",\"s\"\"a\"\"y\"\" \"'\"'," ++
      "\"x\"\\\"y\")->->2\"nd)->(' -> @>>[(no)]").toList ∧
    scan usual odd.canonical = [⟨odd.toPlaceholder, odd.canonical, 0, size odd.canonical⟩] := by
  have h : odd ∈ scan usual ("Hi ".toList ++ odd.raw ++ ['!']) := by decide +kernel
  exact ⟨h, by decide +kernel, scan_canonical h⟩

end Stencil.Draft
