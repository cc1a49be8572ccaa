import Stencil.Jinja.Expression
import Stencil.Text.Blank

/-!
# Jinja pages

A page is text with expressions between double braces and comments between braces with number signs.
Statements are not known and count as a mistake. A minus sign next to the braces drops the blank
characters on that side, a plus sign says nothing, and one line break at the very end of a page is
dropped.
-/

namespace Stencil.Jinja

/-- A part of a page: text that is shown as it is, or an expression whose value is shown. -/
inductive Part where
  | text (t : Text)
  | value (e : Expression)

/-- What opening braces start. -/
inductive Opener where
  | expression
  | statement
  | comment
  deriving DecidableEq

/-- Cuts a text at the first opening braces. -/
def cutOpener? : Text → Option (Text × Opener × Text)
  | [] => none
  | '\x7b' :: '\x7b' :: t => some ([], .expression, t)
  | '\x7b' :: '%' :: t => some ([], .statement, t)
  | '\x7b' :: '#' :: t => some ([], .comment, t)
  | c :: t => (cutOpener? t).map fun (before, opener, rest) => (c :: before, opener, rest)

theorem cutOpener?_length {t before rest : Text} {opener : Opener}
    (h : cutOpener? t = some (before, opener, rest)) : rest.length < t.length := by
  fun_induction cutOpener? t generalizing before opener rest with
  | case1 => cases h
  | case2 =>
    cases h
    simp only [List.length_cons]
    omega
  | case3 =>
    cases h
    simp only [List.length_cons]
    omega
  | case4 =>
    cases h
    simp only [List.length_cons]
    omega
  | case5 c t _ _ _ ih =>
    obtain ⟨⟨_, _, _⟩, hc, hr⟩ := Option.map_eq_some_iff.mp h
    cases hr
    have := ih hc
    simp only [List.length_cons]
    omega

/-- The sign at the front of a text, and the text without it. -/
def takeSign : Text → Option Sign × Text
  | '-' :: t => (some .minus, t)
  | '+' :: t => (some .plus, t)
  | t => (none, t)

theorem takeSign_length_le (t : Text) : (takeSign t).2.length ≤ t.length := by
  unfold takeSign
  split <;> simp

/-- Drops the blank characters at the end. -/
def trimEnd (t : Text) : Text := (t.reverse.dropWhile Text.isBlank).reverse

/-- The text that is left of `t`, when its front or its end is trimmed. -/
def trimmed (front tail : Bool) (t : Text) : Text :=
  let t := if front then Text.trimStart t else t
  if tail then trimEnd t else t

/-- Reads the parts of a page, behind a sign. -/
def parts (sign : Option Sign) (t : Text) : Except Fault (List Part) :=
  let trims : Bool := sign = some .minus
  match _hc : cutOpener? t with
  | none => .ok [.text (trimmed trims false t)]
  | some (before, opener, rest) =>
    let shown := Part.text (trimmed trims ((takeSign rest).1 = some .minus) before)
    match opener with
    | .statement => .error .syntaxError
    | .comment =>
      match _hk : Text.cut? ['#', '\x7d'] (takeSign rest).2 with
      | none => .error .syntaxError
      | some (comment, after) =>
        let sign := if comment.getLast? = some '-' then some .minus else none
        (parts sign after).map (shown :: ·)
    | .expression => do
      match _hb : body 0 (takeSign rest).2 with
      | (ls, none) =>
        let _ ← Expression.ofLexemes ls
        .error .syntaxError
      | (ls, some (sign, after)) =>
        let e ← Expression.ofLexemes ls
        (parts sign after).map fun more => shown :: .value e :: more
termination_by t.length
decreasing_by
  · have h1 := cutOpener?_length _hc
    have h2 := takeSign_length_le rest
    have h3 := Text.cut?_length _hk
    omega
  · have h1 := cutOpener?_length _hc
    have h2 := takeSign_length_le rest
    have h3 := body_length (congrArg Prod.snd _hb)
    omega

/-- Drops a character at the end. -/
def dropEnd (c : Char) (t : Text) : Text := if t.getLast? = some c then t.dropLast else t

/-- Drops one line break at the end of a page. -/
def dropLineBreak (t : Text) : Text := dropEnd '\r' (dropEnd '\n' t)

/-- Reads a page. -/
def read (t : Text) : Except Fault (List Part) := parts none (dropLineBreak t)

end Stencil.Jinja
