import Stencil.Options
import Stencil.Proofs.Scan.Body
import Stencil.Proofs.Scan.Source

/-!
# Delimiters that a key fits between

Options are accepted if no delimiter is empty. That is not enough for a scan: the closer is looked
for behind the first character of the opener, so where it stands in the rest of the opener, it ends
every placeholder before its body begins. This is the only way in which accepted delimiters fail.

* `Delimiters.Neutral`: texts that mean nothing to the marks or in a body.
* `scan_marked`: with accepted delimiters, every neutral key is found between the marks, or no
  placeholder of any text has a key.
-/

namespace Stencil

open Text Chain

/-! ## Neutral texts -/

/-- A text that means nothing where it stands: none of its characters is part of a mark, blank, or a
sign of a body. -/
structure Delimiters.Neutral (d : Delimiters) (t : Text) : Prop where
  marks : ∀ c ∈ t, ∀ part, c ∉ d.get part
  blank : ∀ c ∈ t, isBlank c = false
  signs : ∀ c ∈ t, c ∉ [':', '-', '>']

theorem Delimiters.Neutral.singleton {d : Delimiters} {c : Char} (hmarks : ∀ part, c ∉ d.get part)
    (hblank : isBlank c = false) (hsigns : c ∉ [':', '-', '>']) : d.Neutral [c] where
  marks := List.forall_mem_singleton.mpr hmarks
  blank := List.forall_mem_singleton.mpr hblank
  signs := List.forall_mem_singleton.mpr hsigns

/-- A neutral body is a key. -/
theorem Delimiters.Neutral.readBody {d : Delimiters} {key : Text} (h : d.Neutral key)
    (fallback : Option Text) : readBody key fallback = ⟨none, key, [], fallback⟩ := by
  have harrow : cut? arrow key = none := by
    rw [cut?_eq_none_iff]
    intro hinfix
    have hmem : '-' ∈ key := hinfix.subset (by decide)
    exact h.signs '-' hmem (by decide)
  have hcolon : cut? [':'] key = none := by
    rw [cut?_eq_none_iff, List.singleton_infix_iff]
    exact fun hmem => h.signs ':' hmem (by decide)
  have htrim : trim key = key := trimBy_of_forall h.blank
  simp only [Stencil.readBody, harrow, readPath, hcolon, htrim]

/-! ## A key between the marks -/

namespace Delimiters

/-- A key between opener and closer. -/
def marked (d : Delimiters) (key : Text) : Text := d.opener ++ key ++ d.closer

/-- A key between opener and closer, and a fallback text behind it. -/
def markedWith (d : Delimiters) (key text : Text) : Text :=
  d.marked key ++ d.fallbackOpener ++ text ++ d.fallbackCloser

variable {d : Delimiters} {key text : Text}

/-- The opener of a marked key is the first one, and the first closer behind the first character of
the opener is the one behind the key. -/
theorem exists_closes_marked (ho : d.opener ≠ []) (hc : d.closer ≠ []) (hkey : d.Neutral key)
    (hne : key ≠ []) (hrest : ¬ d.closer <:+: d.opener.tail) (after : Text) :
    ∃ c inside, IsFirst d.opener (d.marked key ++ after) [] (key ++ d.closer ++ after) ∧
      d.opener ++ (key ++ d.closer ++ after) = c :: (inside ++ d.closer ++ after) ∧
      IsFirst d.closer (inside ++ d.closer ++ after) inside after ∧
      (c :: inside).drop d.opener.length = key ∧ c :: inside ++ d.closer = d.marked key := by
  obtain ⟨c, more, hopener⟩ := List.exists_cons_of_ne_nil ho
  have hforeign : ∀ c ∈ key, c ∉ d.closer := fun c hmem => hkey.marks c hmem .closer
  rw [hopener, List.tail_cons] at hrest
  refine ⟨c, more ++ key, ⟨?_, fun _ _ _ => Nat.zero_le _⟩, ?_,
    isFirst_of_foreign hc hne hforeign hrest after, ?_, ?_⟩
  · simp [marked]
  · simp [hopener]
  · simp [hopener]
  · simp [marked, hopener]

theorem first?_marked (h : ∀ part, d.get part ≠ []) (hkey : d.Neutral key) (hne : key ≠ [])
    (hrest : ¬ d.closer <:+: d.opener.tail) :
    Find.first? d (d.marked key) = some ⟨[], key, none, d.marked key, []⟩ := by
  obtain ⟨c, inside, hopens, hcons, hcloses, hbody, hraw⟩ :=
    exists_closes_marked (h .opener) (h .closer) hkey hne hrest []
  have habsent : ¬ ∃ text, FallbackAt d [] text := by
    rintro ⟨text, hat⟩
    obtain ⟨after, hafter⟩ := hat.stands
    simp only [List.append_assoc, List.nil_eq_append_iff] at hafter
    exact hat.opener_ne_nil hafter.1
  have hfind := Find.IsFirst.plain hopens hcons hcloses habsent
  rw [hbody, hraw, List.append_nil] at hfind
  exact Find.first?_eq_some_iff.mpr ⟨h .opener, h .closer, hfind⟩

theorem first?_markedWith (h : ∀ part, d.get part ≠ []) (hkey : d.Neutral key) (hne : key ≠ [])
    (htext : d.Neutral text) (hrest : ¬ d.closer <:+: d.opener.tail) :
    Find.first? d (d.markedWith key text) =
      some ⟨[], key, some text, d.markedWith key text, []⟩ := by
  obtain ⟨c, inside, hopens, hcons, hcloses, hbody, hraw⟩ :=
    exists_closes_marked (h .opener) (h .closer) hkey hne hrest
      (d.fallbackOpener ++ text ++ d.fallbackCloser ++ [])
  have hfirst : IsFirst d.fallbackCloser (text ++ d.fallbackCloser ++ []) text [] := by
    by_cases hnil : text = []
    · subst hnil
      exact ⟨rfl, fun _ _ _ => Nat.zero_le _⟩
    · have hforeign : ∀ c ∈ text, c ∉ d.fallbackCloser :=
        fun c hmem => htext.marks c hmem .fallbackCloser
      exact isFirst_of_foreign (h .fallbackCloser) hnil hforeign
        (fun hinfix => h .fallbackCloser (List.infix_nil.mp hinfix)) []
  have hline : '\n' ∉ text := fun hmem => absurd (htext.blank '\n' hmem) (by decide)
  have hat := FallbackAt.of_isFirst (h .fallbackOpener) (h .fallbackCloser) hfirst hline
  have hfind := Find.IsFirst.fallback hopens hcons hcloses hat
  rw [hbody, hraw] at hfind
  rw [Find.first?_eq_some_iff]
  refine ⟨h .opener, h .closer, ?_⟩
  simpa only [markedWith, List.append_assoc, List.append_nil] using hfind

end Delimiters

/-! ## One token -/

/-- The token that takes up a whole text. -/
def Token.spanning (p : Placeholder) (t : Text) : Token := ⟨p, t, 0, t.size⟩

variable {d : Delimiters}

theorem scan_of_first? (ho : d.opener ≠ []) (hc : d.closer ≠ []) {body raw t : Text}
    {fallback : Option Text} (h : Find.first? d t = some ⟨[], body, fallback, raw, []⟩) :
    scan d t = [.spanning (readBody body fallback) raw] := by
  have hnil : Find.first? d [] = none := by
    rw [Find.first?_eq_none_iff ho hc]
    exact Or.inl fun hinfix => ho (List.infix_nil.mp hinfix)
  rw [scan, scanFrom_of_some h, scanFrom_of_none hnil, Token.spanning]
  simp only [size_nil, Nat.zero_add]

/-- A closer in the rest of the opener ends every placeholder before its body begins. -/
theorem toPlaceholder_of_closer_infix (ho : d.opener ≠ []) (h : d.closer <:+: d.opener.tail)
    {t : Text} {token : Token} (htoken : token ∈ scan d t) :
    token.toPlaceholder = ⟨none, [], [], token.fallback⟩ := by
  obtain ⟨rest, f, hf, -, hcontent⟩ := exists_isFirst_of_mem_scanFrom htoken
  have key : ∀ {behind rest inside after : Text} {c : Char}, d.opener ++ behind = c :: rest →
      Text.IsFirst d.closer rest inside after → (c :: inside).drop d.opener.length = [] := by
    intro behind rest inside after c cons closes
    obtain ⟨o, more, hopener⟩ := List.exists_cons_of_ne_nil ho
    rw [hopener, List.cons_append] at cons
    rw [hopener, List.tail_cons] at h
    obtain ⟨-, rfl⟩ := List.cons.inj cons
    obtain ⟨front, back, rfl⟩ := h
    have hle := closes.least front (back ++ behind) (by simp)
    rw [hopener, List.drop_eq_nil_iff]
    simp only [List.length_cons, List.length_append]
    omega
  have hbody : f.body = [] := by
    cases hf with
    | plain opens cons closes absent => exact key cons closes
    | fallback opens cons closes stands => exact key cons closes
  have hread : token.toPlaceholder = ⟨none, [], [], f.fallback⟩ := by
    rw [hcontent, hbody]
    rfl
  rw [hread]

/-- **What accepted delimiters can do.** Options are accepted if no delimiter is empty. If the
closer does not stand in the opener behind its first character, then a neutral key between opener
and closer is one token, with the key as its path, and so it is with a neutral fallback text between
its marks. Otherwise no token of any text has a path, a scope or a call. -/
theorem scan_marked {o : Options} (h : o.validate = .ok o) :
    (¬ o.wrapper.closer <:+: o.wrapper.opener.tail → ∀ key text, key ≠ [] →
      o.wrapper.Neutral key → o.wrapper.Neutral text →
        scan o.wrapper (o.wrapper.marked key) =
          [.spanning ⟨none, key, [], none⟩ (o.wrapper.marked key)] ∧
        scan o.wrapper (o.wrapper.markedWith key text) =
          [.spanning ⟨none, key, [], some text⟩ (o.wrapper.markedWith key text)] ∧
        ∀ fallback, (⟨none, key, [], fallback⟩ : Placeholder).path = key) ∧
    (o.wrapper.closer <:+: o.wrapper.opener.tail → ∀ t, ∀ token ∈ scan o.wrapper t,
      token.path = [] ∧ token.toPlaceholder = ⟨none, [], [], token.fallback⟩) := by
  have hne := Options.get_ne_nil_of_validate h
  constructor
  · intro hrest key text hkey hneutral htext
    refine ⟨?_, ?_, fun _ => rfl⟩
    · rw [scan_of_first? (hne .opener) (hne .closer)
        (Delimiters.first?_marked hne hneutral hkey hrest), hneutral.readBody]
    · rw [scan_of_first? (hne .opener) (hne .closer)
        (Delimiters.first?_markedWith hne hneutral hkey htext hrest), hneutral.readBody]
  · intro hinfix t token htoken
    have hcontent := toPlaceholder_of_closer_infix (hne .opener) hinfix htoken
    refine ⟨?_, hcontent⟩
    rw [hcontent]
    rfl

/-- Delimiters that are the same, and a closer that is a part of the opener. -/
theorem scan_marked_same :
    let same : Options := { wrapper := { opener := "%%".toList, closer := "%%".toList } }
    let part : Options := { wrapper := { opener := "%%%".toList, closer := "%%".toList } }
    (same.validate = .ok same ∧ ¬ same.wrapper.closer <:+: same.wrapper.opener.tail ∧
      same.wrapper.Neutral ['k'] ∧ same.wrapper.Neutral ['f'] ∧
      scan same.wrapper "%%k%%".toList = [.spanning ⟨none, ['k'], [], none⟩ "%%k%%".toList] ∧
      scan same.wrapper "%%k%%[(f)]".toList =
        [.spanning ⟨none, ['k'], [], some ['f']⟩ "%%k%%[(f)]".toList]) ∧
    part.validate = .ok part ∧ part.wrapper.closer <:+: part.wrapper.opener.tail ∧
      ∃ token ∈ scan part.wrapper "%%%[(f)]".toList,
        token.toPlaceholder = ⟨none, [], [], token.fallback⟩ := by
  intro same part
  have hsame : same.validate = .ok same := by decide
  have hpart : part.validate = .ok part := by decide
  have hrest : ¬ same.wrapper.closer <:+: same.wrapper.opener.tail := by decide
  have hinfix : part.wrapper.closer <:+: part.wrapper.opener.tail := by decide
  have hk : same.wrapper.Neutral ['k'] :=
    .singleton (by intro part; cases part <;> decide) rfl (by decide)
  have hf : same.wrapper.Neutral ['f'] :=
    .singleton (by intro part; cases part <;> decide) rfl (by decide)
  obtain ⟨hplain, hfallback, -⟩ := (scan_marked hsame).1 hrest ['k'] ['f'] (by decide) hk hf
  refine ⟨⟨hsame, hrest, hk, hf, hplain, hfallback⟩, hpart, hinfix, ?_⟩
  obtain ⟨token, htoken⟩ : ∃ token, token ∈ scan part.wrapper "%%%[(f)]".toList :=
    List.exists_mem_of_ne_nil _ (by decide +kernel)
  exact ⟨token, htoken, ((scan_marked hpart).2 hinfix _ token htoken).2⟩

/-- Accepted delimiters between which a key is not found: the scan sees the closer in the opener. -/
theorem scan_marked_part :
    let o : Options := { wrapper := { opener := "%%%".toList, closer := "%%".toList } }
    o.validate = .ok o ∧ o.wrapper.Neutral ['k'] ∧
      scan o.wrapper (o.wrapper.marked ['k']) ≠
        [.spanning ⟨none, ['k'], [], none⟩ (o.wrapper.marked ['k'])] := by
  intro o
  have hneutral : o.wrapper.Neutral ['k'] :=
    .singleton (by intro part; cases part <;> decide) rfl (by decide)
  exact ⟨by decide, hneutral, by decide +kernel⟩

end Stencil
