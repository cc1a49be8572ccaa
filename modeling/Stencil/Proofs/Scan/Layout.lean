import Stencil.Proofs.Scan.Finding
import Stencil.Proofs.Text.Offset

/-!
# How tokens lie in a text

`Layout e t tokens` says that `t`, which starts at byte `e` of a template, is made up of the source
texts of `tokens` and of what stands between them, and that the offsets of the tokens are those
places. It is what substitution needs to know about a scan.

* `layout_scanFrom`: every scan lies in its text.
* `opener_prefix_of_mem_scanFrom`: a source text begins with the opener, unless the closer is too
  short.
-/

namespace Stencil

open Text

/-- `t` starts at byte `e` and consists of the source texts of the tokens, each behind some text of
its own, and of what follows the last one. -/
inductive Layout : Nat → Text → List Token → Prop
  | nil {e : Nat} {t : Text} : Layout e t []
  | cons {e : Nat} {gap after : Text} {token : Token} {more : List Token}
      (start : token.start = e + size gap) (stop : token.stop = token.start + size token.raw)
      (tail : Layout token.stop after more) : Layout e (gap ++ token.raw ++ after) (token :: more)

theorem layout_scanFrom (d : Delimiters) (e : Nat) (t : Text) : Layout e t (scanFrom d e t) := by
  fun_induction scanFrom d e t with
  | case1 e t h => exact .nil
  | case2 e t f h start stop ih =>
    obtain ⟨ht, -⟩ := Find.parts_of_first? h
    rw [ht]
    exact @Layout.cons e f.before f.after ⟨_, f.raw, start, stop⟩ _ rfl rfl ih

theorem layout_scan (d : Delimiters) (t : Text) : Layout 0 t (scan d t) := layout_scanFrom d 0 t

/-! ## Source texts and the opener -/

/-- A closer cannot stand in front of the second character of an opener, so a closer that is not
shorter than the rest of the opener ends behind it. -/
theorem Find.opener_prefix {d : Delimiters} {t : Text} {f : Find} (h : Find.first? d t = some f)
    (hlen : d.opener.length ≤ d.closer.length + 1) : d.opener <+: f.raw := by
  obtain ⟨-, -, hf⟩ := Find.first?_eq_some_iff.mp h
  have key : ∀ {behind rest inside after : Text} {c : Char}, d.opener ++ behind = c :: rest →
      Text.IsFirst d.closer rest inside after → d.opener <+: c :: inside ++ d.closer := by
    intro behind rest inside after c cons closes
    have ho : d.opener <+: c :: rest := ⟨behind, cons⟩
    have hr : c :: inside ++ d.closer <+: c :: rest := ⟨after, by rw [closes.parts]; simp⟩
    refine List.prefix_of_prefix_length_le ho hr ?_
    simp only [List.cons_append, List.length_cons, List.length_append]
    omega
  cases hf with
  | plain opens cons closes absent => exact key cons closes
  | fallback opens cons closes stands =>
    refine (key cons closes).trans ?_
    rw [List.append_assoc, List.append_assoc (_ :: _ ++ _)]
    exact List.prefix_append _ _

theorem opener_prefix_of_mem_scanFrom {d : Delimiters} {e : Nat} {t : Text} {token : Token}
    (hlen : d.opener.length ≤ d.closer.length + 1) (h : token ∈ scanFrom d e t) :
    d.opener <+: token.raw := by
  fun_induction scanFrom d e t with
  | case1 e t hf => cases h
  | case2 e t f hf start stop ih =>
    rcases List.mem_cons.mp h with rfl | h
    · exact Find.opener_prefix hf hlen
    · exact ih h

end Stencil
