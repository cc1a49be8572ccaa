import Stencil.Proofs.Scan.Body
import Stencil.Proofs.Scan.Finding
import Stencil.Proofs.Text.Offset

/-!
# The leftmost decomposition

What `scan` finds, said without the scan: `Leftmost d t e tokens` walks along the offsets of the
whole text `t`. Each token starts at the first opener from the end `e` of the last one, is closed by
the first closer that starts behind the start of that opener, and takes a fallback text along if one
follows. The walk ends where no opener is left, or where the next one is never closed.

* `Leftmost.unique`: there is at most one such list of tokens.
* `leftmost_scanFrom`: the scan of what is left of a text is one.
* `scan_eq_iff_leftmost`: hence the scan finds exactly the tokens of the leftmost decomposition.
-/

namespace Stencil

open Text

/-! ## The decomposition -/

/-- The fallback text that stands at byte `pos` of `t`, if any, and where the placeholder stops. -/
inductive StopsAt (d : Delimiters) (t : Text) (pos : Nat) : Option Text → Nat → Prop
  | fallback {text : Text} (stands : FallbackAt d (skip pos t) text) :
      StopsAt d t pos (some text)
        (pos + d.fallbackOpener.size + text.size + d.fallbackCloser.size)
  | plain (absent : ¬ ∃ text, FallbackAt d (skip pos t) text) : StopsAt d t pos none pos

/-- `token` is the next placeholder of `t` from byte `e` on, and its first closer is at `close`. -/
structure IsNext (d : Delimiters) (t : Text) (e close : Nat) (token : Token) : Prop where
  opens : FirstFrom d.opener t e token.start
  closes : FirstFrom d.closer t (token.start + 1) close
  content : token.toPlaceholder =
    readBody (between (token.start + d.opener.size) close t) token.fallback
  stops : StopsAt d t (close + d.closer.size) token.fallback token.stop
  raw : token.raw = between token.start token.stop t

/-- From byte `e` on there is no opener, or the first one has no closer behind its start. -/
def Exhausted (d : Delimiters) (t : Text) (e : Nat) : Prop :=
  (∀ p, e ≤ p → ¬ OccursAt d.opener t p) ∨
    ∃ start, FirstFrom d.opener t e start ∧ ∀ p, start < p → ¬ OccursAt d.closer t p

/-- `tokens` are the placeholders of `t` from byte `e` on, each one the next behind the last. -/
inductive Leftmost (d : Delimiters) (t : Text) : Nat → List Token → Prop
  | done {e : Nat} (exhausted : Exhausted d t e) : Leftmost d t e []
  | next {e close : Nat} {token : Token} {more : List Token} (head : IsNext d t e close token)
      (tail : Leftmost d t token.stop more) : Leftmost d t e (token :: more)

/-! ## There is only one -/

variable {d : Delimiters} {t : Text}

theorem StopsAt.unique {pos s s' : Nat} {f f' : Option Text} (h : StopsAt d t pos f s)
    (h' : StopsAt d t pos f' s') : f = f' ∧ s = s' := by
  cases h with
  | fallback stands =>
    cases h' with
    | fallback stands' =>
      obtain rfl := stands.unique stands'
      exact ⟨rfl, rfl⟩
    | plain absent => exact (absent ⟨_, stands⟩).elim
  | plain absent =>
    cases h' with
    | fallback stands' => exact (absent ⟨_, stands'⟩).elim
    | plain _ => exact ⟨rfl, rfl⟩

theorem IsNext.unique {e c c' : Nat} {a b : Token} (ha : IsNext d t e c a)
    (hb : IsNext d t e c' b) : a = b := by
  have hstart : a.start = b.start := ha.opens.unique hb.opens
  have hclose : c = c' := ha.closes.unique (hstart ▸ hb.closes)
  subst hclose
  obtain ⟨hfallback, hstop⟩ := ha.stops.unique hb.stops
  have hcontent : a.toPlaceholder = b.toPlaceholder := by
    rw [ha.content, hb.content, hstart, hfallback]
  have hraw : a.raw = b.raw := by rw [ha.raw, hb.raw, hstart, hstop]
  cases a
  cases b
  simp only [Token.mk.injEq]
  exact ⟨hcontent, hraw, hstart, hstop⟩

theorem IsNext.not_exhausted {e c : Nat} {a : Token} (h : IsNext d t e c a) :
    ¬ Exhausted d t e := by
  rintro (hno | ⟨start, hstart, hno⟩)
  · exact hno _ h.opens.1.1 h.opens.1.2
  · obtain rfl : a.start = start := h.opens.unique hstart
    exact hno c h.closes.1.1 h.closes.1.2

theorem Leftmost.unique {e : Nat} {as bs : List Token} (ha : Leftmost d t e as)
    (hb : Leftmost d t e bs) : as = bs := by
  induction ha generalizing bs with
  | done exhausted =>
    cases hb with
    | done _ => rfl
    | next head _ => exact absurd exhausted head.not_exhausted
  | next head _ ih =>
    cases hb with
    | done exhausted => exact absurd exhausted head.not_exhausted
    | next head' tail' =>
      obtain rfl := head.unique head'
      rw [ih tail']

/-! ## The scan is one -/

/-- The body of a placeholder lies between the end of the opener and the closer. -/
theorem between_body (front : Text) {behind inside after : Text} {c : Char}
    (h : d.opener ++ behind = c :: inside ++ d.closer ++ after) :
    between (size front + size d.opener) (size front + size (c :: inside))
      (front ++ (d.opener ++ behind)) = (c :: inside).drop d.opener.length := by
  have ho : d.opener <+: d.opener ++ behind := List.prefix_append _ _
  have hi : c :: inside <+: d.opener ++ behind := ⟨d.closer ++ after, by rw [h]; simp⟩
  rcases List.prefix_or_prefix_of_prefix ho hi with ⟨body, hb⟩ | hp
  · rw [← hb, List.drop_left]
    rw [← hb, List.append_assoc, List.append_assoc] at h
    rw [List.append_cancel_left h, ← List.append_assoc, ← List.append_assoc]
    exact between_append _ _ _ (by simp) (by simp [Nat.add_assoc])
  · rw [List.drop_eq_nil_of_le hp.length_le]
    have hsize := size_mono hp
    exact between_of_le (by omega) _

/-- What is first in the rest of a text is next in the whole of it. The closing marks behind the
closer are given as `suffix`. -/
theorem isNext_of_isFirst (front suffix : Text) (fallback : Option Text)
    {before behind rest inside after : Text} {c : Char}
    (opens : Text.IsFirst d.opener t before behind)
    (cons : d.opener ++ behind = c :: rest)
    (closes : Text.IsFirst d.closer rest inside (suffix ++ after))
    (stops : ∀ pos, skip pos (front ++ t) = suffix ++ after →
      StopsAt d (front ++ t) pos fallback (pos + size suffix)) :
    let start := size front + size before
    let raw := c :: inside ++ d.closer ++ suffix
    ∃ close, IsNext d (front ++ t) (size front) close
      ⟨readBody ((c :: inside).drop d.opener.length) fallback, raw, start, start + size raw⟩ := by
  intro start raw
  have ht : front ++ t = (front ++ before) ++ c :: rest := by
    rw [opens.parts, List.append_assoc before, cons, List.append_assoc]
  have hbody : d.opener ++ behind = c :: inside ++ d.closer ++ (suffix ++ after) := by
    rw [cons, closes.parts]
    simp
  have hstart : start = size (front ++ before) := by simp [start]
  refine ⟨start + size (c :: inside), ?_, ?_, ?_, ?_, ?_⟩
  · exact opens.firstFrom front
  · have hclose := closes.firstFrom_succ (front ++ before) c
    rw [ht, hstart, size_cons, ← Nat.add_assoc]
    exact hclose
  · have hb := between_body (front ++ before) hbody
    rw [ht, ← cons, hstart, hb, readBody_fallback]
  · have hskip : skip (start + size (c :: inside) + size d.closer) (front ++ t) =
        suffix ++ after := by
      have hsize : start + size (c :: inside) + size d.closer =
          size (front ++ before ++ c :: inside ++ d.closer) := by
        simp [start, Nat.add_assoc]
      rw [hsize, ht, ← cons, hbody]
      simpa using skip_size_append (front ++ before ++ c :: inside ++ d.closer) (suffix ++ after)
    have hstop := stops _ hskip
    simp only [readBody_fallback]
    convert hstop using 1
    simp [raw, Nat.add_assoc]
  · rw [ht, ← cons, hbody]
    have hr := between_append (front ++ before) raw after hstart (hstart ▸ rfl :
      start + size raw = size (front ++ before) + size raw)
    simp only [raw, List.append_assoc] at hr ⊢
    exact hr.symm

theorem isNext_of_first? (front : Text) {f : Find} (h : Find.first? d t = some f) :
    let start := size front + size f.before
    ∃ close, IsNext d (front ++ t) (size front) close
      ⟨readBody f.body f.fallback, f.raw, start, start + size f.raw⟩ := by
  obtain ⟨-, -, hf⟩ := Find.first?_eq_some_iff.mp h
  cases hf with
  | plain opens cons closes absent =>
    have hnext := isNext_of_isFirst front [] none opens cons closes fun pos hpos =>
      .plain (by rw [hpos]; exact absent)
    simpa using hnext
  | @fallback before behind rest inside text after c opens cons closes stands =>
    have hnext := isNext_of_isFirst front (d.fallbackOpener ++ text ++ d.fallbackCloser)
      (some text) opens cons closes fun pos hpos => by
        rw [size_append, size_append, ← Nat.add_assoc, ← Nat.add_assoc]
        exact .fallback (by rw [hpos]; exact stands)
    simpa using hnext

theorem exhausted_of_first? (front : Text) (ho : d.opener ≠ []) (hc : d.closer ≠ [])
    (h : Find.first? d t = none) : Exhausted d (front ++ t) (size front) := by
  rcases (Find.first?_eq_none_iff ho hc).mp h with hno | ⟨before, behind, c, rest, opens, hr, hno⟩
  · left
    intro p hp hocc
    obtain ⟨b, a, ht, -⟩ := hocc.behind hp
    exact hno ⟨b, a, ht.symm⟩
  · right
    refine ⟨_, opens.firstFrom front, ?_⟩
    intro p hp hocc
    have ht : front ++ t = (front ++ before ++ [c]) ++ rest := by
      rw [opens.parts, List.append_assoc before, hr]
      simp
    rw [ht] at hocc
    have hocc' : OccursAt d.closer ((front ++ before) ++ c :: rest) p := by simpa using hocc
    have hle := hocc'.size_le_of_lt (by simpa using hp)
    obtain ⟨b, a, hrest, -⟩ := hocc.behind (by simpa [Nat.add_assoc] using hle)
    exact hno ⟨b, a, hrest.symm⟩

/-- Scanning the rest of a text gives the placeholders of the whole text from there on. -/
theorem leftmost_scanFrom (ho : d.opener ≠ []) (hc : d.closer ≠ []) (front t : Text) :
    Leftmost d (front ++ t) (size front) (scanFrom d (size front) t) := by
  induction hn : t.length using Nat.strong_induction_on generalizing front t with
  | _ n ih =>
    rw [scanFrom]
    split
    · rename_i h
      exact .done (exhausted_of_first? front ho hc h)
    · rename_i f h
      obtain ⟨close, hnext⟩ := isNext_of_first? front h
      refine .next hnext ?_
      obtain ⟨ht, -⟩ := Find.parts_of_first? h
      have hlt := Find.length_after_lt h
      have hmore := ih f.after.length (hn ▸ hlt) (front ++ f.before ++ f.raw) f.after rfl
      have htext : front ++ t = front ++ f.before ++ f.raw ++ f.after := by
        rw [List.append_assoc front, List.append_assoc front, ← ht]
      rw [htext]
      simpa only [size_append] using hmore

/-- The scan of a text finds the tokens of its leftmost decomposition and no others: there is always
one such decomposition, and it is what the scan gives. -/
theorem scan_eq_iff_leftmost (ho : d.opener ≠ []) (hc : d.closer ≠ []) (t : Text)
    (tokens : List Token) : scan d t = tokens ↔ Leftmost d t 0 tokens := by
  have h : Leftmost d t 0 (scan d t) := leftmost_scanFrom ho hc [] t
  constructor
  · rintro rfl
    exact h
  · exact h.unique

/-- A closer that overlaps its opener, a fallback text, and an opener that is never closed. -/
theorem leftmost_overlapped :
    ({} : Delimiters).opener ≠ [] ∧ ({} : Delimiters).closer ≠ [] ∧
      Leftmost {} "é<<@>><<@a@>>[(x)]<<@b".toList 0
        [⟨⟨none, [], [], none⟩, "<<@>>".toList, 2, 7⟩,
          ⟨⟨none, ['a'], [], some ['x']⟩, "<<@a@>>[(x)]".toList, 7, 19⟩] := by
  have ho : ({} : Delimiters).opener ≠ [] := by decide
  have hc : ({} : Delimiters).closer ≠ [] := by decide
  exact ⟨ho, hc, (scan_eq_iff_leftmost ho hc _ _).mp (by decide +kernel)⟩

end Stencil
