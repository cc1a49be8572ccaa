import Stencil.Jinja.Value

/-!
# Jinja expressions

An expression is built from names and literals by operators, filters behind bars, and items behind
dots or in brackets. Filters and items bind most tightly, then minus signs, then the operators,
level by level, all of them from left to right; a choice between two expressions binds least.

Reading goes from the front: each function takes lexemes and returns what they stand for and the
lexemes that follow. The first lexeme that cannot go on is the mistake. `Expression.ofLexemes` reads
a whole list; the fuel that it hands down is more than the lexemes can use up.
-/

namespace Stencil.Jinja

/-- An expression. -/
inductive Expression where
  | literal (v : Value)
  | name (t : Text)
  | list (items : List Expression)
  | map (fields : List (Expression × Expression))
  | item (e key : Expression)
  | negation (e : Expression)
  | not (e : Expression)
  | binary (op : Operator) (l r : Expression)
  | choice (condition yes no : Expression)
  | filter (name : Text) (e : Expression) (args : List Expression)

/-! ## Parts without expressions in them -/

/-- The fault of lexemes that cannot go on: their own, if the first one is bad. -/
def faultOf : List Lexeme → Fault
  | .bad fault :: _ => fault
  | _ => .syntaxError

/-- What follows a word at the front. -/
def afterWord? (word : String) : List Lexeme → Option (List Lexeme)
  | .name t :: ls => if t = word.toList then some ls else none
  | _ => none

/-- What follows a closing bracket at the front. -/
def afterClosing (bracket : Bracket) : List Lexeme → Except Fault (List Lexeme)
  | .closing b :: ls => if b = bracket then .ok ls else .error .syntaxError
  | ls => .error (faultOf ls)

/-- The expression that a name stands for: some names are literals. -/
def Expression.ofName (t : Text) : Expression :=
  if t = "true".toList ∨ t = "True".toList then .literal (.bool true)
  else if t = "false".toList ∨ t = "False".toList then .literal (.bool false)
  else if t = "none".toList ∨ t = "None".toList then .literal .null
  else .name t

/-- Reads the name of a filter, which may have several parts with dots between them. -/
def filterName : List Lexeme → Except Fault (Text × List Lexeme)
  | .name t :: .dot :: ls => (filterName ls).map fun (more, ls) => (t ++ '.' :: more, ls)
  | .name t :: ls => .ok (t, ls)
  | ls => .error (faultOf ls)

/-! ## Operators -/

/-- The level of an operator. Operators of higher levels bind more tightly. -/
def Operator.level : Operator → Nat
  | .or => 0
  | .and => 1
  | .equal | .unequal | .less | .lessOrEqual | .greater | .greaterOrEqual | .within => 3
  | .add | .subtract => 4
  | .join => 5
  | .multiply | .divide | .divideWhole | .remainder => 6
  | .power => 7

/-- The level of the word `not` in front of an expression. -/
def notLevel : Nat := 2

/-- The operator at the front of lexemes, whether its result is turned around, and what follows. -/
def operator? : List Lexeme → Except Fault (Option (Operator × Bool × List Lexeme))
  | .operator op :: ls => .ok (some (op, false, ls))
  | .name t :: ls =>
    if t = "or".toList then .ok (some (.or, false, ls))
    else if t = "and".toList then .ok (some (.and, false, ls))
    else if t = "in".toList then .ok (some (.within, false, ls))
    else if t = "not".toList then
      match afterWord? "in" ls with
      | some ls => .ok (some (.within, true, ls))
      | none => .error (faultOf ls)
    else .ok none
  | .bad fault :: _ => .error fault
  | _ => .ok none

/-- The operator at the front of lexemes, if it binds at least as tightly as a level says. -/
def operatorFrom? (level : Nat) (ls : List Lexeme) :
    Except Fault (Option (Operator × Bool × List Lexeme)) :=
  if Operator.within.level < level ∧ (afterWord? "not" ls).isSome then .ok none
  else (operator? ls).map fun found => found.filter fun (op, _) => level ≤ op.level

/-! ## Expressions -/

/-- The greatest number of arguments of a filter. -/
def greatestArity : Nat := 2000

namespace Expression

mutual

/-- Reads an expression. -/
def read : Nat → List Lexeme → Except Fault (Expression × List Lexeme)
  | 0, _ => .error .syntaxError
  | n + 1, ls => do
    let (e, ls) ← operation n 0 ls
    choices n e ls

/-- Reads the conditions behind an expression and what there is instead of it. -/
def choices : Nat → Expression → List Lexeme → Except Fault (Expression × List Lexeme)
  | 0, _, _ => .error .syntaxError
  | n + 1, e, ls =>
    match afterWord? "if" ls with
    | none => .ok (e, ls)
    | some ls => do
      let (condition, ls) ← operation n 0 ls
      match afterWord? "else" ls with
      | none => choices n (.choice condition e (.literal .undefined)) ls
      | some ls => do
        let (other, ls) ← read n ls
        choices n (.choice condition e other) ls

/-- Reads operands with operators of at least a level. -/
def operation : Nat → Nat → List Lexeme → Except Fault (Expression × List Lexeme)
  | 0, _, _ => .error .syntaxError
  | n + 1, level, ls =>
    match (afterWord? "not" ls).filter fun _ => level ≤ notLevel with
    | some ls => do
      let (e, ls) ← operation n notLevel ls
      operators n level (.not e) ls
    | none => do
      let (e, ls) ← operand n ls
      operators n level e ls

/-- Reads operators of at least a level behind an expression, each with its second operand. -/
def operators : Nat → Nat → Expression → List Lexeme → Except Fault (Expression × List Lexeme)
  | 0, _, _, _ => .error .syntaxError
  | n + 1, level, e, ls => do
    match ← operatorFrom? level ls with
    | none => .ok (e, ls)
    | some (op, turned, ls) => do
      let (r, ls) ← operation n (op.level + 1) ls
      operators n level (if turned then .not (.binary op e r) else .binary op e r) ls

/-- Reads an operand with its items and filters. -/
def operand : Nat → List Lexeme → Except Fault (Expression × List Lexeme)
  | 0, _ => .error .syntaxError
  | n + 1, ls => do
    let (e, ls) ← signed n ls
    let (e, ls) ← items n e ls
    filters n e ls

/-- Reads minus signs and what they stand before. -/
def signed : Nat → List Lexeme → Except Fault (Expression × List Lexeme)
  | 0, _ => .error .syntaxError
  | n + 1, .operator .subtract :: ls => (signed n ls).map fun (e, ls) => (.negation e, ls)
  | n + 1, ls => atom n ls

/-- Reads a name, a literal, or what stands in brackets. -/
def atom : Nat → List Lexeme → Except Fault (Expression × List Lexeme)
  | 0, _ => .error .syntaxError
  | _ + 1, .name t :: ls => .ok (ofName t, ls)
  | _ + 1, .string t :: ls => .ok (.literal (.string t), ls)
  | _ + 1, .whole k :: ls => .ok (.literal (.whole k), ls)
  | _ + 1, .float x :: ls => .ok (.literal (.float x), ls)
  | n + 1, .opening .square :: ls =>
    (elements n .square ls).map fun (items, ls) => (.list items, ls)
  | n + 1, .opening .curly :: ls => (fields n ls).map fun (fields, ls) => (.map fields, ls)
  | _ + 1, .opening .round :: .closing .round :: ls => .ok (.list [], ls)
  | n + 1, .opening .round :: ls => do
    match ← read n ls with
    | (e, .comma :: ls) =>
      (elements n .round ls).map fun (items, ls) => (.list (e :: items), ls)
    | (e, ls) => (afterClosing .round ls).map (e, ·)
  | _ + 1, ls => .error (faultOf ls)

/-- Reads expressions with commas between them, up to a closing bracket. -/
def elements : Nat → Bracket → List Lexeme → Except Fault (List Expression × List Lexeme)
  | 0, _, _ => .error .syntaxError
  | n + 1, bracket, ls =>
    match afterClosing bracket ls with
    | .ok ls => .ok ([], ls)
    | .error _ => do
      match ← read n ls with
      | (e, .comma :: ls) => (elements n bracket ls).map fun (items, ls) => (e :: items, ls)
      | (e, ls) => (afterClosing bracket ls).map ([e], ·)

/-- Reads fields with commas between them, up to a closing brace. -/
def fields : Nat → List Lexeme → Except Fault (List (Expression × Expression) × List Lexeme)
  | 0, _ => .error .syntaxError
  | n + 1, ls =>
    match afterClosing .curly ls with
    | .ok ls => .ok ([], ls)
    | .error _ => do
      match ← read n ls with
      | (key, .colon :: ls) => do
        match ← read n ls with
        | (e, .comma :: ls) => (fields n ls).map fun (fields, ls) => ((key, e) :: fields, ls)
        | (e, ls) => (afterClosing .curly ls).map ([(key, e)], ·)
      | (_, ls) => .error (faultOf ls)

/-- Reads the items behind an expression. -/
def items : Nat → Expression → List Lexeme → Except Fault (Expression × List Lexeme)
  | 0, _, _ => .error .syntaxError
  | n + 1, e, .dot :: .name t :: ls => items n (.item e (.literal (.string t))) ls
  | n + 1, e, .dot :: .whole k :: ls =>
    if k < Decimal.twoTo 64 then items n (.item e (.literal (.whole k))) ls
    else .error .syntaxError
  | _ + 1, _, .dot :: ls => .error (faultOf ls)
  | n + 1, e, .opening .square :: ls => do
    let (key, ls) ← read n ls
    let ls ← afterClosing .square ls
    items n (.item e key) ls
  | _ + 1, e, ls => .ok (e, ls)

/-- Reads the filters behind an expression. -/
def filters : Nat → Expression → List Lexeme → Except Fault (Expression × List Lexeme)
  | 0, _, _ => .error .syntaxError
  | n + 1, e, .bar :: ls => do
    match ← filterName ls with
    | (t, .opening .round :: ls) => do
      let (args, ls) ← elements n .round ls
      if greatestArity < args.length then .error .syntaxError
      else filters n (.filter t e args) ls
    | (t, ls) => filters n (.filter t e []) ls
  | _ + 1, e, ls => .ok (e, ls)

end

/-- Reads a whole list of lexemes. One lexeme is used up in less than eight steps. -/
def ofLexemes (ls : List Lexeme) : Except Fault Expression := do
  match ← read (8 * (ls.length + 1)) ls with
  | (e, []) => .ok e
  | (_, ls) => .error (faultOf ls)

end Expression

end Stencil.Jinja
