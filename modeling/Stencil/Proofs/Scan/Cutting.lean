import Stencil.Proofs.Scan.Layout
import Stencil.Proofs.Scan.Source

/-!
# Cutting a scan behind a token

The extent of a placeholder hangs on the text behind it: its first closer, and a fallback text that
has to be closed on the same line. What was found once, however, is found again when the text is cut
behind it, or when nothing but its own source text is left.

* `FallbackAt.append`, `FallbackAt.shorten`: a fallback text does not hang on what follows it.
* `Find.IsFirst.elsewhere`: a find in any other text that goes on with its source text.
* `exists_cut_scanFrom`: the scan up to a token and the scan behind it.
* `scan_cut` says this of all tokens, and that source texts decide contents.
-/

namespace Stencil

open Text

/-! ## Tokens in other places -/

/-- The token in a text that starts `n` bytes later. -/
def Token.shift (n : Nat) (token : Token) : Token :=
  { token with start := n + token.start, stop := n + token.stop }

/-- The token at another offset. -/
def Token.movedTo (start : Nat) (token : Token) : Token :=
  { token with start := start, stop := start + size token.raw }

variable {d : Delimiters}

theorem scanFrom_eq_map_shift (d : Delimiters) (e n : Nat) (t : Text) :
    scanFrom d (n + e) t = (scanFrom d e t).map (Token.shift n) := by
  fun_induction scanFrom d e t with
  | case1 e t h => rw [scanFrom_of_none h, List.map_nil]
  | case2 e t f h start stop ih =>
    have hstop : n + e + size f.before + size f.raw = n + stop := by
      simp only [stop, start]
      omega
    rw [scanFrom_of_some h, hstop, ih, List.map_cons, Token.shift, Nat.add_assoc n e]

/-! ## Fallback texts -/

theorem FallbackAt.append {t text : Text} (h : FallbackAt d t text) (more : Text) :
    FallbackAt d (t ++ more) text := by
  obtain ⟨rest, ht⟩ := h.stands
  refine ⟨h.opener_ne_nil, h.closer_ne_nil, ⟨rest ++ more, by rw [ht]; simp⟩, ?_, h.oneLine⟩
  intro text' rest' heq
  by_contra hlt
  -- an earlier closer would end inside `t`, and there it is no earlier one
  have hshort : d.fallbackOpener ++ text' ++ d.fallbackCloser <+: t := by
    refine List.prefix_of_prefix_length_le ⟨rest', heq.symm⟩ (List.prefix_append t more) ?_
    rw [ht]
    simp only [List.length_append]
    omega
  obtain ⟨rest'', hrest⟩ := hshort
  exact hlt (h.least text' rest'' hrest.symm)

theorem FallbackAt.shorten {text x y : Text}
    (h : FallbackAt d (d.fallbackOpener ++ text ++ d.fallbackCloser ++ (x ++ y)) text) :
    FallbackAt d (d.fallbackOpener ++ text ++ d.fallbackCloser ++ x) text := by
  refine ⟨h.opener_ne_nil, h.closer_ne_nil, ⟨x, rfl⟩, ?_, h.oneLine⟩
  intro text' rest heq
  apply h.least text' (rest ++ y)
  rw [← List.append_assoc, heq, List.append_assoc _ rest]

/-! ## Finds in other texts -/

theorem isFirst_front (mark t : Text) : Text.IsFirst mark (mark ++ t) [] t :=
  ⟨rfl, fun _ _ _ => Nat.zero_le _⟩

/-- A find starts with the first opener, which may go beyond the find. -/
theorem Find.IsFirst.opens {t : Text} {f : Find} (h : Find.IsFirst d t f) :
    ∃ behind, Text.IsFirst d.opener t f.before behind ∧
      d.opener ++ behind = f.raw ++ f.after := by
  cases h with
  | plain opens cons closes absent =>
    exact ⟨_, opens, by rw [cons, closes.parts]; simp⟩
  | fallback opens cons closes stands =>
    exact ⟨_, opens, by rw [cons, closes.parts]; simp⟩

/-- What was found with `x` behind it is found in any text whose first opener begins the same
source text, again with `x` behind it. -/
theorem Find.IsFirst.elsewhere {t t' before behind x y : Text} {f : Find}
    (h : Find.IsFirst d t f) (hafter : f.after = x ++ y)
    (opens : Text.IsFirst d.opener t' before behind) (hraw : d.opener ++ behind = f.raw ++ x) :
    Find.IsFirst d t' { f with before := before, after := x } := by
  cases h with
  | plain _ _ closes absent =>
    obtain rfl := hafter
    rw [List.append_assoc, List.cons_append] at hraw
    have hcloses := closes.shorten
    rw [List.append_assoc] at hcloses
    refine .plain opens hraw hcloses ?_
    rintro ⟨text, hat⟩
    exact absent ⟨text, hat.append y⟩
  | @fallback _ _ _ inside text _ _ _ _ closes stands =>
    obtain rfl := hafter
    simp only [List.append_assoc, List.cons_append] at hraw
    rw [← List.append_assoc _ x y] at closes
    have hcloses := closes.shorten
    simp only [List.append_assoc] at hcloses
    refine .fallback opens hraw ?_ stands.shorten
    simpa only [List.append_assoc] using hcloses

variable {t : Text} {f : Find} {x y : Text}

/-- The opener of a find lies in front of any cut that leaves as many bytes as it has. -/
theorem Find.IsFirst.exists_behind (h : Find.IsFirst d t f) (hafter : f.after = x ++ y)
    (hsize : size d.opener ≤ size (f.raw ++ x)) :
    ∃ behind, d.opener ++ behind = f.raw ++ x ∧
      Text.IsFirst d.opener t f.before (behind ++ y) := by
  obtain ⟨all, opens, hraw⟩ := h.opens
  rw [hafter, ← List.append_assoc] at hraw
  obtain ⟨behind, hbehind⟩ := prefix_of_size_le ⟨all, hraw⟩ (List.prefix_append _ y) hsize
  rw [← hbehind, List.append_assoc] at hraw
  exact ⟨behind, hbehind, List.append_cancel_left hraw ▸ opens⟩

/-- A find is found again when the text is cut behind it. -/
theorem Find.first?_shorten (h : Find.first? d t = some f) (hafter : f.after = x ++ y)
    (hsize : size d.opener ≤ size (f.raw ++ x)) :
    Find.first? d (f.before ++ f.raw ++ x) = some { f with after := x } := by
  obtain ⟨ho, hc, hf⟩ := Find.first?_eq_some_iff.mp h
  obtain ⟨behind, hbehind, opens⟩ := hf.exists_behind hafter hsize
  have hopens := opens.shorten
  rw [List.append_assoc, hbehind, ← List.append_assoc] at hopens
  exact Find.first?_eq_some_iff.mpr ⟨ho, hc, hf.elsewhere hafter hopens hbehind⟩

/-- A find is found again in its own source text. -/
theorem Find.first?_raw (h : Find.first? d t = some f) (hsize : size d.opener ≤ size f.raw) :
    Find.first? d f.raw = some { f with before := [], after := [] } := by
  obtain ⟨ho, hc, hf⟩ := Find.first?_eq_some_iff.mp h
  obtain ⟨behind, hbehind, -⟩ := hf.exists_behind (x := []) rfl (by rwa [List.append_nil])
  have hopens := isFirst_front d.opener behind
  rw [hbehind, List.append_nil] at hopens
  exact Find.first?_eq_some_iff.mpr ⟨ho, hc, hf.elsewhere rfl hopens hbehind⟩

/-! ## Scans of other texts -/

theorem scanFrom_nil (d : Delimiters) (e : Nat) : scanFrom d e [] = [] := by
  apply scanFrom_of_none
  cases h : Find.first? d [] with
  | none => rfl
  | some f => exact absurd (Find.length_after_lt h) (Nat.not_lt_zero _)

/-- A token is the only one in its own source text. -/
theorem scan_raw {e : Nat} {token : Token} (h : token ∈ scanFrom d e t)
    (hsize : size d.opener ≤ size token.raw) : scan d token.raw = [token.movedTo 0] := by
  fun_induction scanFrom d e t with
  | case1 => cases h
  | case2 e t f hf start stop ih =>
    rcases List.mem_cons.mp h with rfl | h
    · rw [scan, scanFrom_of_some (Find.first?_raw hf hsize), scanFrom_nil]
      simp only [Token.movedTo, size_nil, Nat.add_zero, Nat.zero_add]
    · exact ih h

/-- Behind a token a text can be cut in two, which are scanned one after the other. -/
theorem exists_cut_scanFrom {e : Nat} {token : Token} (h : token ∈ scanFrom d e t)
    (hsize : size d.opener ≤ size token.raw) : ∃ front after, t = front ++ after ∧
      token.stop = e + size front ∧ size token.raw ≤ size front ∧
      scanFrom d e t = scanFrom d e front ++ scanFrom d token.stop after := by
  fun_induction scanFrom d e t with
  | case1 => cases h
  | case2 e t f hf start stop ih =>
    obtain ⟨ht, -⟩ := Find.parts_of_first? hf
    rcases List.mem_cons.mp h with rfl | h
    · refine ⟨f.before ++ f.raw, f.after, ht, ?_, ?_, ?_⟩
      · simp only [stop, start, size_append, Nat.add_assoc]
      · simp only [size_append, Nat.le_add_left]
      · have hcut := Find.first?_shorten (x := []) hf rfl (by rwa [List.append_nil])
        rw [List.append_nil] at hcut
        rw [scanFrom_of_some hcut, scanFrom_nil]
        rfl
    · obtain ⟨front, after, hafter, hstop, hfront, hscan⟩ := ih h
      have hopener : size d.opener ≤ size (f.raw ++ front) := by
        rw [size_append]
        omega
      refine ⟨f.before ++ f.raw ++ front, after, ?_, ?_, ?_, ?_⟩
      · rw [ht, hafter, ← List.append_assoc]
      · rw [hstop]
        simp only [stop, start, size_append, Nat.add_assoc]
      · rw [size_append]
        omega
      · rw [scanFrom_of_some (Find.first?_shorten hf hafter hopener), List.cons_append, hscan]

/-- The source text of a token, wherever it was found, decides its content and with it its path. A
token that is not shorter than the opener, as all tokens are with the usual delimiters, is the only
one in its own source text, and the text can be cut behind it: there is a character that starts at
this place or the text ends, and the scans of the two parts, the second one with shifted offsets,
make up the scan of the whole. -/
theorem scan_cut (d : Delimiters) :
    (∀ s t, ∀ a ∈ scan d s, ∀ b ∈ scan d t, a.raw = b.raw →
      a.toPlaceholder = b.toPlaceholder ∧ a.path = b.path) ∧
      (∀ t, ∀ token ∈ scan d t, size d.opener ≤ size token.raw →
        scan d token.raw = [token.movedTo 0] ∧
        t = keep token.stop t ++ skip token.stop t ∧ size (keep token.stop t) = token.stop ∧
        scan d t = scan d (keep token.stop t) ++
          (scan d (skip token.stop t)).map (Token.shift token.stop)) ∧
      ∀ t, ∀ token ∈ scan {} t, size ({} : Delimiters).opener ≤ size token.raw := by
  refine ⟨?_, ?_, ?_⟩
  · intro s t a ha b hb hraw
    have hsame := toPlaceholder_eq_of_raw_eq ha hb hraw
    exact ⟨hsame, congrArg Placeholder.path hsame⟩
  · intro t token h hsize
    obtain ⟨front, after, rfl, hstop, -, hscan⟩ := exists_cut_scanFrom h hsize
    rw [Nat.zero_add] at hstop
    rw [hstop, keep_size_append, skip_size_append]
    refine ⟨scan_raw h hsize, rfl, rfl, ?_⟩
    rw [scan, hscan, hstop]
    exact congrArg _ (scanFrom_eq_map_shift d 0 (size front) after)
  · intro t token h
    exact size_mono (opener_prefix_of_mem_scanFrom (by decide) h)

/-- The fallback text of the first token would be closed behind a line break, and the cut is right
behind the second one, whose own fallback text ends there. -/
theorem scan_cut_line_break :
    let d : Delimiters := { opener := "%%".toList, closer := "%%".toList,
                            fallbackOpener := ['('], fallbackCloser := [')'] }
    let t := "é%%a%%(x\n%%b%%(y)(%%a%%".toList
    let token : Token := ⟨⟨none, ['b'], [], some ['y']⟩, "%%b%%(y)".toList, 10, 18⟩
    let first : Token := ⟨⟨none, ['a'], [], none⟩, "%%a%%".toList, 2, 7⟩
    let last : Token := ⟨⟨none, ['a'], [], none⟩, "%%a%%".toList, 1, 6⟩
    token ∈ scan d t ∧ size d.opener ≤ size token.raw ∧ scan d token.raw = [token.movedTo 0] ∧
      scan d (keep 18 t) = [first, token] ∧ scan d (skip 18 t) = [last] ∧
      scan d t = [first, token] ++ [last].map (Token.shift 18) ∧
      first.raw = last.raw ∧ first.toPlaceholder = last.toPlaceholder := by
  intro d t token first last
  obtain ⟨hsame, hcut, -⟩ := scan_cut d
  have htoken : token ∈ scan d t := by decide +kernel
  have hsize : size d.opener ≤ size token.raw := by decide
  have hfront : scan d (keep 18 t) = [first, token] := by decide +kernel
  have hback : scan d (skip 18 t) = [last] := by decide +kernel
  obtain ⟨hraw, -, -, hscan⟩ := hcut t token htoken hsize
  have hfirst : first ∈ scan d (keep 18 t) := hfront ▸ List.mem_cons_self
  have hlast : last ∈ scan d (skip 18 t) := hback ▸ List.mem_cons_self
  refine ⟨htoken, hsize, hraw, hfront, hback, ?_, rfl, (hsame _ _ _ hfirst _ hlast rfl).1⟩
  rw [hscan, hfront, hback]

end Stencil
