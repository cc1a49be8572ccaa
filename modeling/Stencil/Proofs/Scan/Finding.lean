import Stencil.Scan
import Stencil.Proofs.Text.Occurrence

/-!
# What is found first

`FallbackAt` and `Find.IsFirst` say in terms of occurrences what `fallback?` and `Find.first?` look
for. Later modules use the two equivalences and never open the searches again.

* `fallback?_eq_some_iff`, `fallback?_eq_none_iff`: the fallback text at the front of a text.
* `Find.first?_eq_some_iff`, `Find.first?_eq_none_iff`: the first placeholder of a text.
-/

namespace Stencil

open Text

/-! ## Fallback texts -/

/-- `text` is the fallback text at the front of `t`: it stands between the fallback marks, ends at
the first closing one, and has no line break. Marks that are empty mark nothing. -/
structure FallbackAt (d : Delimiters) (t text : Text) : Prop where
  opener_ne_nil : d.fallbackOpener ≠ []
  closer_ne_nil : d.fallbackCloser ≠ []
  stands : ∃ after, t = d.fallbackOpener ++ text ++ d.fallbackCloser ++ after
  least : ∀ text' after, t = d.fallbackOpener ++ text' ++ d.fallbackCloser ++ after →
    text.length ≤ text'.length
  oneLine : '\n' ∉ text

variable {d : Delimiters} {t text after : Text}

theorem FallbackAt.unique {text' : Text} (h : FallbackAt d t text) (h' : FallbackAt d t text') :
    text = text' := by
  obtain ⟨a, ha⟩ := h.stands
  obtain ⟨a', ha'⟩ := h'.stands
  have hle := h.least _ _ ha'
  have hge := h'.least _ _ ha
  have hlen : text.length = text'.length := by omega
  have heq := ha.symm.trans ha'
  simp only [List.append_assoc, List.append_cancel_left_eq] at heq
  exact (List.append_inj heq hlen).1

theorem FallbackAt.isFirst (h : FallbackAt d t text)
    (ht : t = d.fallbackOpener ++ text ++ d.fallbackCloser ++ after) :
    IsFirst d.fallbackCloser (text ++ d.fallbackCloser ++ after) text after := by
  refine ⟨rfl, ?_⟩
  intro b a hb
  apply h.least b a
  rw [ht, List.append_assoc, List.append_assoc, ← List.append_assoc text, hb]
  simp

theorem FallbackAt.of_isFirst (ho : d.fallbackOpener ≠ []) (hc : d.fallbackCloser ≠ [])
    (h : IsFirst d.fallbackCloser (text ++ d.fallbackCloser ++ after) text after)
    (hline : '\n' ∉ text) :
    FallbackAt d (d.fallbackOpener ++ text ++ d.fallbackCloser ++ after) text where
  opener_ne_nil := ho
  closer_ne_nil := hc
  stands := ⟨after, rfl⟩
  least := by
    intro text' after' heq
    simp only [List.append_assoc, List.append_cancel_left_eq] at heq
    exact h.least text' after' (by simpa only [List.append_assoc] using heq)
  oneLine := hline

theorem fallback?_eq_some_iff : fallback? d t = some (text, after) ↔
    FallbackAt d t text ∧ t = d.fallbackOpener ++ text ++ d.fallbackCloser ++ after := by
  constructor
  · intro h
    refine ⟨?_, eq_of_fallback? h⟩
    unfold fallback? at h
    split at h
    · cases h
    · rename_i hne
      split at h
      · cases h
      · rename_i inner hp
        split at h
        · cases h
        · rename_i text' after' hc
          split at h
          · cases h
          · rename_i hline
            cases h
            obtain ⟨hparts, hleast⟩ := isFirst_of_cut? hc
            rw [not_or] at hne
            refine ⟨hne.1, hne.2, ⟨after, ?_⟩, fun b a hb => hleast b a ?_, hline⟩
            · rw [eq_of_after? hp, hparts]
              simp
            · rw [eq_of_after? hp, List.append_assoc, List.append_assoc] at hb
              rw [List.append_cancel_left hb, List.append_assoc]
  · rintro ⟨h, ht⟩
    have hp : after? d.fallbackOpener t = some (text ++ d.fallbackCloser ++ after) :=
      after?_eq_some_iff.mpr (by rw [ht]; simp)
    have hc := cut?_eq_some_iff.mpr (h.isFirst ht)
    simp only [fallback?, h.opener_ne_nil, h.closer_ne_nil, or_self, if_false, hp, hc, h.oneLine]

theorem fallback?_eq_none_iff : fallback? d t = none ↔ ¬ ∃ text, FallbackAt d t text := by
  constructor
  · rintro h ⟨text, ht⟩
    obtain ⟨after, ha⟩ := ht.stands
    rw [fallback?_eq_some_iff.mpr ⟨ht, ha⟩] at h
    cases h
  · intro h
    cases hf : fallback? d t with
    | none => rfl
    | some parts => exact absurd ⟨_, (fallback?_eq_some_iff.mp hf).1⟩ h

instance (d : Delimiters) (t : Text) : Decidable (∃ text, FallbackAt d t text) :=
  decidable_of_iff (¬ fallback? d t = none) (by rw [fallback?_eq_none_iff, not_not])

/-! ## Placeholders -/

/-- The first placeholder of a text: it starts with the first opener, whose first character is `c`,
and its first closer stands behind `c`. A fallback text may follow. -/
inductive Find.IsFirst (d : Delimiters) (t : Text) : Find → Prop
  | plain {before behind rest inside after : Text} {c : Char}
      (opens : Text.IsFirst d.opener t before behind) (cons : d.opener ++ behind = c :: rest)
      (closes : Text.IsFirst d.closer rest inside after)
      (absent : ¬ ∃ text, FallbackAt d after text) :
      Find.IsFirst d t
        ⟨before, (c :: inside).drop d.opener.length, none, c :: inside ++ d.closer, after⟩
  | fallback {before behind rest inside text after : Text} {c : Char}
      (opens : Text.IsFirst d.opener t before behind) (cons : d.opener ++ behind = c :: rest)
      (closes : Text.IsFirst d.closer rest inside
        (d.fallbackOpener ++ text ++ d.fallbackCloser ++ after))
      (stands : FallbackAt d (d.fallbackOpener ++ text ++ d.fallbackCloser ++ after) text) :
      Find.IsFirst d t
        ⟨before, (c :: inside).drop d.opener.length, some text,
          c :: inside ++ d.closer ++ d.fallbackOpener ++ text ++ d.fallbackCloser, after⟩

theorem Find.first?_eq_some_iff {f : Find} : Find.first? d t = some f ↔
    d.opener ≠ [] ∧ d.closer ≠ [] ∧ Find.IsFirst d t f := by
  constructor
  · intro h
    unfold Find.first? at h
    split at h
    · cases h
    · rename_i hne
      rw [not_or] at hne
      refine ⟨hne.1, hne.2, ?_⟩
      split at h
      · cases h
      · rename_i before behind hb
        split at h
        · cases h
        · rename_i c rest hr
          split at h
          · cases h
          · rename_i inside after hc
            have hopen := isFirst_of_cut? hb
            have hclose := isFirst_of_cut? hc
            simp only at h
            split at h
            · rename_i hf
              cases h
              exact .plain hopen hr hclose (fallback?_eq_none_iff.mp hf)
            · rename_i text after' hf
              cases h
              obtain ⟨hat, rfl⟩ := fallback?_eq_some_iff.mp hf
              exact .fallback hopen hr hclose hat
  · rintro ⟨ho, hc, h⟩
    cases h with
    | plain opens cons closes absent =>
      simp only [Find.first?, ho, hc, or_self, if_false, cut?_eq_some_iff.mpr opens, cons,
        cut?_eq_some_iff.mpr closes, fallback?_eq_none_iff.mpr absent]
    | fallback opens cons closes stands =>
      simp only [Find.first?, ho, hc, or_self, if_false, cut?_eq_some_iff.mpr opens, cons,
        cut?_eq_some_iff.mpr closes, fallback?_eq_some_iff.mpr ⟨stands, rfl⟩]

/-- There is no placeholder if there is no opener, or if no closer stands behind the first character
of the first opener. -/
theorem Find.first?_eq_none_iff (ho : d.opener ≠ []) (hc : d.closer ≠ []) :
    Find.first? d t = none ↔ ¬ d.opener <:+: t ∨ ∃ before behind c rest,
      Text.IsFirst d.opener t before behind ∧ d.opener ++ behind = c :: rest ∧
        ¬ d.closer <:+: rest := by
  constructor
  · intro h
    by_cases hin : d.opener <:+: t
    · obtain ⟨before, behind, hopen⟩ := exists_isFirst hin
      have hne : d.opener ++ behind ≠ [] := List.append_ne_nil_of_left_ne_nil ho behind
      obtain ⟨c, rest, hr⟩ := List.exists_cons_of_ne_nil hne
      refine Or.inr ⟨before, behind, c, rest, hopen, hr, fun hcl => ?_⟩
      obtain ⟨inside, after, hclose⟩ := exists_isFirst hcl
      have hf : ∃ f, Find.IsFirst d t f := by
        by_cases hfb : ∃ text, FallbackAt d after text
        · obtain ⟨text, hat⟩ := hfb
          obtain ⟨after', rfl⟩ := hat.stands
          exact ⟨_, .fallback hopen hr hclose hat⟩
        · exact ⟨_, .plain hopen hr hclose hfb⟩
      obtain ⟨f, hf⟩ := hf
      rw [Find.first?_eq_some_iff.mpr ⟨ho, hc, hf⟩] at h
      cases h
    · exact Or.inl hin
  · rintro (hin | ⟨before, behind, c, rest, hopen, hr, hcl⟩)
    · simp only [Find.first?, ho, hc, or_self, if_false, cut?_eq_none_iff.mpr hin]
    · simp only [Find.first?, ho, hc, or_self, if_false, cut?_eq_some_iff.mpr hopen, hr,
        cut?_eq_none_iff.mpr hcl]

theorem Find.IsFirst.not_isInfix_body {f : Find} (h : Find.IsFirst d t f) (ho : d.opener ≠ [])
    (hc : d.closer ≠ []) : ¬ d.closer <:+: f.body := by
  obtain ⟨o, opener, ho⟩ := List.exists_cons_of_ne_nil ho
  have hdrop : ∀ (c : Char) (inside : Text),
      (c :: inside).drop d.opener.length = inside.drop opener.length := by
    intro c inside
    rw [ho, List.length_cons, List.drop_succ_cons]
  cases h with
  | plain opens cons closes absent =>
    intro hm
    rw [hdrop] at hm
    exact closes.not_isInfix hc (hm.trans (List.drop_suffix _ _).isInfix)
  | fallback opens cons closes stands =>
    intro hm
    rw [hdrop] at hm
    exact closes.not_isInfix hc (hm.trans (List.drop_suffix _ _).isInfix)

theorem Find.IsFirst.not_isInfix_before {f : Find} (h : Find.IsFirst d t f) (ho : d.opener ≠ []) :
    ¬ d.opener <:+: f.before := by
  cases h with
  | plain opens cons closes absent => exact opens.not_isInfix ho
  | fallback opens cons closes stands => exact opens.not_isInfix ho

theorem Find.IsFirst.notMem_fallback {f : Find} (h : Find.IsFirst d t f) :
    ∀ text ∈ f.fallback, '\n' ∉ text ∧ ¬ d.fallbackCloser <:+: text := by
  intro text htext
  cases h with
  | plain opens cons closes absent => cases htext
  | fallback opens cons closes stands =>
    obtain rfl := Option.some.inj htext
    exact ⟨stands.oneLine, (stands.isFirst rfl).not_isInfix stands.closer_ne_nil⟩

/-! ## One step of a scan -/

theorem scanFrom_of_none {e : Nat} (h : Find.first? d t = none) : scanFrom d e t = [] := by
  rw [scanFrom]
  split
  · rfl
  · rename_i f hf
    rw [h] at hf
    cases hf

theorem scanFrom_of_some {e : Nat} {f : Find} (h : Find.first? d t = some f) :
    scanFrom d e t =
      ⟨readBody f.body f.fallback, f.raw, e + size f.before, e + size f.before + size f.raw⟩ ::
        scanFrom d (e + size f.before + size f.raw) f.after := by
  rw [scanFrom]
  split
  · rename_i hf
    rw [h] at hf
    cases hf
  · rename_i g hg
    rw [h] at hg
    cases hg
    rfl

end Stencil
