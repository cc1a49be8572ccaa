import Stencil.Proofs.Entries.Pairs
import Stencil.Proofs.Json.Assignment
import Stencil.Proofs.Json.Document

/-!
# Reading the pretty form

Texts and objects of texts are read back from their pretty form: with the same keys in the same
order, unless a key is repeated or more objects are open at the same time than a reader accepts.

* `Fits room j`: a value of this kind, with at most `room` objects inside one another.
* `Fits.reads`: its pretty form has the lexemes of a document with this value.
* `read?_pretty`: hence it is read back.
* `Fits.assign`: writing a text at a path of at most `room` segments keeps the value in this room.
-/

namespace Stencil.Json

open Written (lexemes fieldLexemes valueWithin? fieldsWithin?)

/-! ## Values that are read back -/

/-- A text, or an object of such values without a repeated key; at most `room` objects stand inside
one another. -/
inductive Fits : Nat → Json → Prop
  | string {room : Nat} (t : Text) : Fits room (.string t)
  | object {room : Nat} {fields : Entries Json} (nodup : (Entries.keys fields).Nodup)
      (values : ∀ entry ∈ fields, Fits room entry.2) : Fits (room + 1) (.object fields)

/-- The text is that of a document with this value. -/
def Reads (room : Nat) (s : Text) (j : Json) : Prop :=
  ∃ w, Lexes s (lexemes w) ∧ valueWithin? room w = some j

theorem reads_literal (room : Nat) (t : Text) : Reads room (literal t) (.string t) := by
  refine ⟨.string (t.map pieceOf), lexes_literal t, ?_⟩
  rw [valueWithin?, decode?_pieces, Option.map_some]

/-- A key, the colon behind it, and a value. -/
theorem lexes_field (level : Nat) (key : Text) {s : Text} {ls : List Lexeme} (h : Lexes s ls) :
    Lexes (newLine level ++ literal key ++ [':', ' '] ++ s)
      (.string (key.map pieceOf) :: .colon :: ls) := by
  have hcolon : Lexes [':'] [.colon] := lexes_mark (by decide) fun _ => rfl
  have hmarks : Lexes [':', ' '] [.colon] := hcolon.append (lexes_space (by decide))
  exact (((lexes_newLine level).append (lexes_literal key)).append hmarks).append h

theorem fieldsWithin?_cons {room : Nat} {key : Text} {w : Written} {j : Json}
    {ws : List (List Piece × Written)} {fields : List (Text × Json)}
    (hw : valueWithin? room w = some j) (hws : fieldsWithin? room ws = some fields) :
    fieldsWithin? room ((key.map pieceOf, w) :: ws) = some ((key, j) :: fields) := by
  simp only [fieldsWithin?, decode?_pieces, hw, hws, Option.bind_eq_bind, Option.bind_some]
  rfl

/-- Further fields of an object whose values are read back. -/
theorem lexes_prettyFields {room level : Nat} {fields : List (Text × Json)}
    (h : ∀ entry ∈ fields, Reads room (prettyAt level entry.2) entry.2) :
    ∃ ws, Lexes (prettyFields level fields) (fieldLexemes ws) ∧
      fieldsWithin? room ws = some fields := by
  induction fields with
  | nil => exact ⟨[], lexes_nil, rfl⟩
  | cons entry more ih =>
    obtain ⟨key, value⟩ := entry
    obtain ⟨w, hlexes, hvalue⟩ := h (key, value) List.mem_cons_self
    obtain ⟨ws, hmore, hvalues⟩ := ih fun other hother => h other (List.mem_cons_of_mem _ hother)
    have hcomma : Lexes [','] [.comma] := lexes_mark (by decide) fun _ => rfl
    have hall := (hcomma.append (lexes_field level key hlexes)).append hmore
    refine ⟨(key.map pieceOf, w) :: ws, ?_, fieldsWithin?_cons hvalue hvalues⟩
    simpa only [prettyFields, fieldLexemes, List.cons_append, List.append_assoc,
      List.nil_append] using hall

theorem Fits.reads {room : Nat} {j : Json} (h : Fits room j) (level : Nat) :
    Reads room (prettyAt level j) j := by
  induction h generalizing level with
  | @string room t => exact reads_literal room t
  | @object room fields nodup values ih =>
    have hopen : Lexes ['\x7b'] [.openObject] := lexes_mark (by decide) fun _ => rfl
    have hclose : Lexes ['\x7d'] [.closeObject] := lexes_mark (by decide) fun _ => rfl
    have hvalue : ∀ {ws}, fieldsWithin? room ws = some fields →
        valueWithin? (room + 1) (.object ws) = some (.object fields) := by
      intro ws hws
      rw [valueWithin?, hws, Option.map_some, Entries.ofList_of_nodup nodup]
    cases fields with
    | nil => exact ⟨.object [], hopen.append hclose, hvalue rfl⟩
    | cons entry more =>
      obtain ⟨key, value⟩ := entry
      obtain ⟨w, hlexes, hw⟩ := ih (key, value) List.mem_cons_self (level + 1)
      obtain ⟨ws, hmore, hws⟩ := lexes_prettyFields fun other hother =>
        ih other (List.mem_cons_of_mem _ hother) (level + 1)
      refine ⟨.object ((key.map pieceOf, w) :: ws), ?_, hvalue (fieldsWithin?_cons hw hws)⟩
      have hfields := (lexes_field (level + 1) key hlexes).append hmore
      have hall := ((hopen.append hfields).append (lexes_newLine level)).append hclose
      simpa only [prettyAt, lexemes, List.cons_append, List.append_assoc, List.nil_append]
        using hall

/-- What fits is read back from its pretty form, with its keys in the same order. -/
theorem read?_pretty {j : Json} (h : Fits Written.greatestDepth j) : read? (pretty j) = some j := by
  obtain ⟨w, hlexes, hvalue⟩ := h.reads 0
  rw [read?, Written.ofText?, pretty, hlexes.lexemes?, Option.bind_some, Written.ofLexemes?_lexemes,
    Option.bind_some]
  exact hvalue

/-! ## Writing a text -/

/-- The fields of an object that has room for so many further ones inside. -/
structure Holds (room : Nat) (fields : Entries Json) : Prop where
  nodup : (Entries.keys fields).Nodup
  values : ∀ entry ∈ fields, Fits room entry.2

variable {room : Nat} {fields : Entries Json}

theorem Holds.nil : Holds room [] := ⟨List.nodup_nil, fun _ hmem => by cases hmem⟩

theorem Holds.insert (h : Holds room fields) {value : Json} (hvalue : Fits room value)
    (key : Text) : Holds room (Entries.insert key value fields) := by
  refine ⟨Entries.nodup_keys_insert h.nodup key value, ?_⟩
  intro entry hentry
  rcases Entries.mem_of_mem_insert hentry with rfl | hentry
  · exact hvalue
  · exact h.values entry hentry

theorem Fits.holds_fields {j : Json} (h : Fits room j) : Holds (room - 1) j.fields := by
  cases h with
  | string t => exact Holds.nil
  | object nodup values => exact ⟨nodup, values⟩

theorem fits_put (t : Text) {p : List Text} (hp : p.length ≤ room) {j : Json}
    (hj : Holds (room - 1) j.fields) : Fits room (put (.string t) p j) := by
  induction p generalizing room j with
  | nil => exact .string t
  | cons segment p ih =>
    obtain ⟨room, rfl⟩ : ∃ n, room = n + 1 := ⟨room - 1, by simp at hp; omega⟩
    rw [List.length_cons, Nat.add_le_add_iff_right] at hp
    rw [Nat.add_sub_cancel] at hj
    have hinner : Holds (room - 1) ((Entries.get? segment j.fields).getD (.object [])).fields := by
      cases hs : Entries.get? segment j.fields with
      | none => exact Holds.nil
      | some inner => exact (hj.values _ (Entries.mem_of_get? hs)).holds_fields
    have hinsert := hj.insert (ih hp hinner) segment
    exact .object hinsert.nodup hinsert.values

/-- Writing a text at a path of at most `room` segments needs no more room. -/
theorem Fits.assign {j : Json} (h : Fits room j) {path : Text}
    (hpath : (segments path).length ≤ room) (t : Text) : Fits room (assign j path (.string t)) := by
  cases h with
  | string => exact .string _
  | @object room fields nodup values =>
    by_cases hnil : path = []
    · rw [Json.assign, if_pos hnil]
      exact .object nodup values
    · rw [assign_eq_put hnil]
      exact fits_put t hpath ⟨nodup, values⟩

end Stencil.Json
