import Stencil.Yaml.Lexeme

/-!
# YAML documents

A document is a node: a scalar, a sequence or a mapping. Where a node is left out, an empty plain
scalar stands. A text holds one document or none; more are refused.
-/

namespace Stencil.Yaml

/-- A part of a document. -/
inductive Node where
  | scalar (s : Scalar)
  | sequence (items : List Node)
  | mapping (pairs : List (Node × Node))

namespace Node

/-- The node that stands where none is written. -/
def missing : Node := .scalar ⟨[], true⟩

/-- Does a node end before this lexeme, inside a block mapping? -/
def endsEntry : List Lexeme → Bool
  | [] | .key :: _ | .value :: _ | .closeBlock :: _ => true
  | _ => false

/-- Does a node end before this lexeme, inside a block sequence? -/
def endsItem : List Lexeme → Bool
  | [] | .item :: _ | .closeBlock :: _ => true
  | _ => false

/-- Does a node end before this lexeme, inside a flow collection with the given last lexeme? -/
def endsFlow (last : Lexeme) : List Lexeme → Bool
  | [] | .separator :: _ => true
  | l :: _ => l == last

mutual

/-- Reads a node. In a block there may be block collections; a sequence may stand on the column of
its key only as the value of that key, and then it is not closed by a lexeme of its own. `fuel`
bounds the number of steps. -/
def read? (fuel : Nat) (inBlock afterKey : Bool) : List Lexeme → Option (Node × List Lexeme)
  | .scalar s :: ls => some (.scalar s, ls)
  | .item :: ls =>
    match fuel with
    | 0 => none
    | fuel + 1 =>
      if afterKey then
        (unclosedItems? fuel (.item :: ls)).map fun (items, ls) => (.sequence items, ls)
      else none
  | .openFlowSequence :: ls =>
    match fuel with
    | 0 => none
    | fuel + 1 => (flowItems? fuel true ls).map fun (items, ls) => (.sequence items, ls)
  | .openFlowMapping :: ls =>
    match fuel with
    | 0 => none
    | fuel + 1 => (flowEntries? fuel true ls).map fun (pairs, ls) => (.mapping pairs, ls)
  | .openBlockSequence :: ls =>
    match fuel with
    | 0 => none
    | fuel + 1 =>
      if inBlock then (items? fuel ls).map fun (items, ls) => (.sequence items, ls) else none
  | .openBlockMapping :: ls =>
    match fuel with
    | 0 => none
    | fuel + 1 =>
      if inBlock then (entries? fuel ls).map fun (pairs, ls) => (.mapping pairs, ls) else none
  | _ => none

/-- Reads the items of a block sequence. -/
def items? (fuel : Nat) (ls : List Lexeme) : Option (List Node × List Lexeme) :=
  match fuel, ls with
  | _, .closeBlock :: ls => some ([], ls)
  | fuel + 1, .item :: ls => do
    let (node, ls) ← if endsItem ls then some (missing, ls) else read? fuel true false ls
    let (more, ls) ← items? fuel ls
    pure (node :: more, ls)
  | _, _ => none

/-- Reads the items of a sequence that stands on the column of its key. -/
def unclosedItems? (fuel : Nat) (ls : List Lexeme) : Option (List Node × List Lexeme) :=
  match fuel, ls with
  | fuel + 1, .item :: ls => do
    let (node, ls) ←
      if endsItem ls || endsEntry ls then some (missing, ls) else read? fuel true false ls
    let (more, ls) ← unclosedItems? fuel ls
    pure (node :: more, ls)
  | 0, .item :: _ => none
  | _, ls => some ([], ls)

/-- Reads the entries of a block mapping. -/
def entries? (fuel : Nat) (ls : List Lexeme) : Option (List (Node × Node) × List Lexeme) :=
  match fuel, ls with
  | _, .closeBlock :: ls => some ([], ls)
  | fuel + 1, .key :: ls => do
    let (key, ls) ← if endsEntry ls then some (missing, ls) else read? fuel true true ls
    let (value, ls) ←
      match ls with
      | .value :: ls => if endsEntry ls then some (missing, ls) else read? fuel true true ls
      | ls => some (missing, ls)
    let (more, ls) ← entries? fuel ls
    pure ((key, value) :: more, ls)
  | _, _ => none

/-- Reads the value behind a key in a flow collection. -/
def flowValue? (fuel : Nat) (last : Lexeme) (ls : List Lexeme) : Option (Node × List Lexeme) :=
  match fuel, ls with
  | fuel + 1, .value :: ls =>
    if endsFlow last ls then some (missing, ls) else read? fuel false false ls
  | 0, .value :: _ => none
  | _, ls => some (missing, ls)

/-- Reads the items of a flow sequence. A key begins a mapping with a single entry. -/
def flowItems? (fuel : Nat) (first : Bool) (ls : List Lexeme) : Option (List Node × List Lexeme) :=
  match fuel, ls with
  | _, .closeFlowSequence :: ls => some ([], ls)
  | 0, _ => none
  | fuel + 1, ls =>
    let ls? :=
      match first, ls with
      | true, ls => some ls
      | false, .separator :: ls => some ls
      | false, _ => none
    match ls? with
    | none => none
    | some (.closeFlowSequence :: ls) => some ([], ls)
    | some (.key :: ls) => do
      let (key, ls) ← read? fuel false false ls
      let (value, ls) ← flowValue? fuel .closeFlowSequence ls
      let (more, ls) ← flowItems? fuel false ls
      pure (.mapping [(key, value)] :: more, ls)
    | some ls => do
      let (node, ls) ← read? fuel false false ls
      let (more, ls) ← flowItems? fuel false ls
      pure (node :: more, ls)

/-- Reads the entries of a flow mapping. A node without a colon is a key without a value. -/
def flowEntries? (fuel : Nat) (first : Bool) (ls : List Lexeme) :
    Option (List (Node × Node) × List Lexeme) :=
  match fuel, ls with
  | _, .closeFlowMapping :: ls => some ([], ls)
  | 0, _ => none
  | fuel + 1, ls =>
    let ls? :=
      match first, ls with
      | true, ls => some ls
      | false, .separator :: ls => some ls
      | false, _ => none
    match ls? with
    | none => none
    | some (.closeFlowMapping :: ls) => some ([], ls)
    | some (.key :: ls) => do
      let (key, ls) ← read? fuel false false ls
      let (value, ls) ← flowValue? fuel .closeFlowMapping ls
      let (more, ls) ← flowEntries? fuel false ls
      pure ((key, value) :: more, ls)
    | some ls => do
      let (key, ls) ← read? fuel false false ls
      let (more, ls) ← flowEntries? fuel false ls
      pure ((key, missing) :: more, ls)

end

/-- Reads the content of a document, which may be missing. -/
def content? (ls : List Lexeme) : Option (Node × List Lexeme) :=
  match ls with
  | [] | .documentStart :: _ | .documentEnd :: _ => some (missing, ls)
  | ls => read? (2 * ls.length) true false ls

/-- The document of a sequence of lexemes, if there is one. Only marks of an end may follow it. -/
def ofLexemes? (ls : List Lexeme) : Option (Option Node) :=
  match ls with
  | [] => some none
  | ls => do
    let (node, ls) ←
      match ls with
      | .documentStart :: ls => content? ls
      | .documentEnd :: _ => none
      | ls => content? ls
    if ls.all (· == .documentEnd) then pure (some node) else none

/-- The document that a text holds, if it holds one. -/
def ofText? (t : Text) : Option (Option Node) := (lexemes? t).bind ofLexemes?

end Node

end Stencil.Yaml
