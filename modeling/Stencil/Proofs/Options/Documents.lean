import Stencil.Engine
import Stencil.Options.Reading
import Stencil.Proofs.Json.Grammar

/-!
# Options and the documents that write them

A document may write some of the options and leave out others, in any order. `Selection` says which
ones it writes: `Selection.document` is the document, and `Selection.options` are the options that
it stands for, with default values for what is left out.

* `Json.Means.options?`: options are read from a document as from the value that it means.
* `Options.Selection.options?_document`: a value with some of the options is read as what it stands
  for.
* `Options.read_document`: so is every text that writes it, unless a delimiter is empty then.
-/

namespace Stencil

/-! ## Fields of a record -/

namespace Format

variable {α β γ : Type}

/-- Related fields are read alike. -/
theorem fieldOr?_congr {R : α → β → Prop} {xs : List (Text × α)} {ys : List (Text × β)}
    (h : List.Forall₂ (fun x y => x.1 = y.1 ∧ R x.2 y.2) xs ys) {read? : α → Option γ}
    {read?' : β → Option γ} (hread : ∀ {a b}, R a b → read? a = read?' b) (name : Text)
    (missing : γ) : fieldOr? read? name missing xs = fieldOr? read?' name missing ys := by
  have hfilter : List.Forall₂ (fun x y => x.1 = y.1 ∧ R x.2 y.2)
      (xs.filter (·.1 = name)) (ys.filter (·.1 = name)) := by
    refine List.rel_filter ?_ h
    intro x y hxy
    simp only [hxy.1]
  rw [fieldOr?, fieldOr?, field?, field?]
  generalize xs.filter (·.1 = name) = xs' at hfilter ⊢
  generalize ys.filter (·.1 = name) = ys' at hfilter ⊢
  cases hfilter with
  | nil => rfl
  | cons hfirst hmore =>
    cases hmore with
    | nil => exact hread hfirst.2
    | cons => rfl

/-- Fields that are written under names of their own are found under these. -/
theorem fieldOr?_map {ι : Type} [DecidableEq ι] {name : ι → Text}
    (hname : Function.Injective name) {written : List ι} (hwritten : written.Nodup)
    {value : ι → α} {read? : α → Option γ} {i : ι} {v : γ} (hread : read? (value i) = some v)
    (missing : γ) :
    fieldOr? read? (name i) missing (written.map fun j => (name j, value j)) =
      some (if i ∈ written then v else missing) := by
  -- names are different for different fields, so one field at most is left
  have hfilter : (written.map fun j => (name j, value j)).filter (·.1 = name i) =
      if i ∈ written then [(name i, value i)] else [] := by
    have hi : (fun x : Text × α => decide (x.1 = name i)) ∘ (fun j => (name j, value j)) =
        fun j => j == i := by
      funext j
      simp only [Function.comp_apply, hname.eq_iff, beq_eq_decide]
    rw [List.filter_map, hi, List.filter_beq, hwritten.count]
    split <;> rfl
  rw [fieldOr?, field?, hfilter]
  by_cases hi : i ∈ written
  · simp only [hi, if_true]
    exact hread
  · simp only [hi, if_false]
    rfl

end Format

/-! ## Values as documents -/

namespace Json

/-- The fields of a record. -/
def record? (_names : List Text) : Json → Option (List (Text × Json))
  | .object fields => some fields
  | _ => none

/-- A truth value. -/
def bool? : Json → Option Bool
  | .bool b => some b
  | _ => none

/-- A text. -/
def text? : Json → Option Text
  | .string t => some t
  | _ => none

/-- Values as documents: what is left of the JSON format when strings are decoded. -/
def format : Format Json := ⟨record?, bool?, text?⟩

variable {w : Written} {j : Json}

theorem Means.bool?_eq (h : Means w j) : w.bool? = j.bool? := by
  cases h <;> rfl

theorem Means.text?_eq (h : Means w j) : w.text? = j.text? := by
  cases h with
  | string decodes => exact decodes
  | _ => rfl

theorem MeansFields.record? : ∀ {ws : List (List Piece × Written)} {fields : List (Text × Json)},
    MeansFields ws fields → ∃ pairs,
      (ws.mapM fun (key, value) => (decode? key).map fun key => (key, value)) = some pairs ∧
        List.Forall₂ (fun x y => x.1 = y.1 ∧ Means x.2 y.2) pairs fields
  | _, _, .nil => ⟨[], rfl, .nil⟩
  | _, _, @MeansFields.cons _ key w _ _ _ left right more => by
    obtain ⟨pairs, hpairs, hrelated⟩ := more.record?
    refine ⟨(key, w) :: pairs, ?_, .cons ⟨rfl, right⟩ hrelated⟩
    simp only [List.mapM_cons, hpairs, left]
    rfl

/-- A document and the value that it means have related fields, or none. -/
theorem Means.record? (h : Means w j) (names : List Text) :
    (w.record? names = none ∧ j.record? names = none) ∨
      ∃ pairs fields, w.record? names = some pairs ∧ j.record? names = some fields ∧
        List.Forall₂ (fun x y => x.1 = y.1 ∧ Means x.2 y.2) pairs fields := by
  cases h with
  | bool => exact Or.inl ⟨rfl, rfl⟩
  | string => exact Or.inl ⟨rfl, rfl⟩
  | object inside =>
    obtain ⟨pairs, hpairs, hrelated⟩ := inside.record?
    exact Or.inr ⟨pairs, _, hpairs, rfl, hrelated⟩

theorem Means.delimiters? (h : Means w j) :
    Written.format.delimiters? w = format.delimiters? j := by
  simp only [Format.delimiters?, Written.format, format, Option.bind_eq_bind]
  rcases h.record? (Delimiters.Part.all.map Delimiters.Part.name) with
    ⟨hw, hj⟩ | ⟨pairs, fields, hw, hj, hrelated⟩
  · rw [hw, hj]
    rfl
  · have htext := Format.fieldOr?_congr hrelated fun h => h.text?_eq
    simp only [hw, hj, Option.bind_some, htext]

/-- Options are read from a document as from the value that it means. -/
theorem Means.options? (h : Means w j) : Written.format.options? w = format.options? j := by
  have hwrapper : ∀ {w j}, Means w j → Written.format.delimiters? w = format.delimiters? j :=
    fun h => h.delimiters?
  simp only [Written.format, format] at hwrapper
  simp only [Format.options?, Written.format, format, Option.bind_eq_bind]
  rcases h.record? ["strict".toList, "fallbackValue".toList, "wrapper".toList] with
    ⟨hw, hj⟩ | ⟨pairs, fields, hw, hj, hrelated⟩
  · rw [hw, hj]
    rfl
  · have hstrict := Format.fieldOr?_congr hrelated fun h => h.bool?_eq
    have hfallback := Format.fieldOr?_congr hrelated fun h => h.text?_eq
    have hmarks := Format.fieldOr?_congr hrelated hwrapper
    simp only [hw, hj, Option.bind_some, hstrict, hfallback, hmarks]

end Json

/-! ## What a document writes -/

theorem Delimiters.Part.name_injective : Function.Injective Part.name := by
  intro p q
  cases p <;> cases q <;> decide

namespace Options

/-- One of the three options. -/
inductive Field where
  | strict
  | fallbackValue
  | wrapper
  deriving DecidableEq

/-- The name under which documents give an option. -/
def Field.name : Field → Text
  | .strict => "strict".toList
  | .fallbackValue => "fallbackValue".toList
  | .wrapper => "wrapper".toList

theorem Field.name_injective : Function.Injective Field.name := by
  intro f g
  cases f <;> cases g <;> decide

/-- The options and delimiters that a document writes, in the order in which they stand there. -/
structure Selection where
  fields : List Field
  parts : List Delimiters.Part
  nodup_fields : fields.Nodup
  nodup_parts : parts.Nodup

namespace Selection

variable (s : Selection) (o : Options)

/-- The value of a field. The wrapper has the selected delimiters. -/
def value : Field → Json
  | .strict => .bool o.strict
  | .fallbackValue => .string o.fallbackValue
  | .wrapper => .object (s.parts.map fun part => (part.name, .string (o.wrapper.get part)))

/-- The document with the selected fields of the options. -/
def document : Json := .object (s.fields.map fun field => (field.name, s.value o field))

/-- The default delimiters with the selected ones replaced. -/
def delimiters (d : Delimiters) : Delimiters :=
  let default : Delimiters := {}
  let mark (part : Delimiters.Part) := if part ∈ s.parts then d.get part else default.get part
  ⟨mark .opener, mark .closer, mark .fallbackOpener, mark .fallbackCloser⟩

/-- The default options with the selected fields replaced. -/
def options : Options :=
  let default : Options := {}
  { strict := if .strict ∈ s.fields then o.strict else default.strict
    fallbackValue := if .fallbackValue ∈ s.fields then o.fallbackValue else default.fallbackValue
    wrapper := if .wrapper ∈ s.fields then s.delimiters o.wrapper else default.wrapper }

theorem delimiters?_value :
    Json.format.delimiters? (s.value o .wrapper) = some (s.delimiters o.wrapper) := by
  have hpart : ∀ (part : Delimiters.Part) (missing : Text),
      Format.fieldOr? Json.text? part.name missing
          (s.parts.map fun part => (part.name, .string (o.wrapper.get part))) =
        some (if part ∈ s.parts then o.wrapper.get part else missing) :=
    fun _ => Format.fieldOr?_map Delimiters.Part.name_injective s.nodup_parts rfl
  simp only [Format.delimiters?, Json.format, value, Json.record?, Option.bind_eq_bind,
    Option.bind_some, hpart]
  rfl

theorem fieldOr?_document {γ : Type} (field : Field) (name : Text) (hname : field.name = name)
    (read? : Json → Option γ) {v : γ} (hread : read? (s.value o field) = some v) (missing : γ) :
    Format.fieldOr? read? name missing (s.fields.map fun field => (field.name, s.value o field)) =
      some (if field ∈ s.fields then v else missing) :=
  hname ▸ Format.fieldOr?_map Field.name_injective s.nodup_fields hread missing

/-- A value that writes some of the options is read as what it stands for. -/
theorem options?_document : Json.format.options? (s.document o) = some (s.options o) := by
  have hrecord : ∀ names fields, Json.format.record? names (.object fields) = some fields :=
    fun _ _ => rfl
  have hstrict := s.fieldOr?_document o .strict "strict".toList rfl Json.format.bool? rfl
  have hfallback :=
    s.fieldOr?_document o .fallbackValue "fallbackValue".toList rfl Json.format.text? rfl
  have hwrapper :=
    s.fieldOr?_document o .wrapper "wrapper".toList rfl Json.format.delimiters?
      (s.delimiters?_value o)
  rw [Format.options?, document, hrecord]
  simp only [Option.bind_eq_bind, Option.bind_some, hstrict, hfallback, hwrapper]
  rfl

/-- In the compact form, the document is written. -/
theorem writes_document : Json.Writes (s.document o) (s.document o).compact := by
  apply Json.writes_compact
  refine List.forall_mem_map.mpr ?_
  rintro (_ | _ | _) -
  case strict => exact .bool o.strict
  case fallbackValue => exact Json.writes_literal o.fallbackValue
  case wrapper =>
    exact Json.writes_compact (List.forall_mem_map.mpr fun part _ => Json.writes_literal _)

/-- All options and delimiters are written. -/
structure Complete : Prop where
  fields : ∀ field, field ∈ s.fields
  parts : ∀ part, part ∈ s.parts

/-- All of them, in the order in which they are checked. -/
def all : Selection where
  fields := [.strict, .fallbackValue, .wrapper]
  parts := Delimiters.Part.all
  nodup_fields := by decide
  nodup_parts := by decide

theorem complete_all : all.Complete where
  fields field := by cases field <;> decide
  parts part := by cases part <;> decide

variable {s}

theorem Complete.delimiters (h : s.Complete) (d : Delimiters) : s.delimiters d = d := by
  simp only [Selection.delimiters, h.parts, if_true, Delimiters.get]

/-- A document with all options stands for them. -/
theorem Complete.options (h : s.Complete) : s.options o = o := by
  simp only [Selection.options, h.fields, if_true, h.delimiters]

end Selection

/-! ## Reading what is written -/

/-- A text that writes some of the options is read as what it stands for, if this is accepted. -/
theorem read_of_writes {s : Selection} {o : Options} {t : Text}
    (h : Json.Writes (s.document o) t) : Options.read t = (s.options o).validate := by
  obtain ⟨w, hw, hmeans⟩ := h.ofText?
  have hread : Json.options? t = some (s.options o) := by
    rw [Json.options?, hw, Option.bind_some, hmeans.options?, s.options?_document]
  rw [Options.read, hread]
  rfl

/-- **Options written in part.** Take any of the options and delimiters, in any order, and a text
that writes them as a JSON object. It stands for the default options with these replaced. If they
have no empty delimiter, they are what is read, and an engine takes them as they are. Otherwise
reading fails, and the message names the first delimiter that is empty. -/
theorem read_document (s : Selection) (o : Options) {t : Text} (h : Json.Writes (s.document o) t) :
    ((∀ part, (s.options o).wrapper.get part ≠ []) →
      Options.read t = .ok (s.options o) ∧
        ∀ σ, ∃ e : Engine σ, Engine.withOptions (s.options o) = .ok e ∧
          e.options = s.options o) ∧
      ((∃ part, (s.options o).wrapper.get part = []) →
        ∃ front part back,
          [.opener, .closer, .fallbackOpener, .fallbackCloser] = front ++ part :: back ∧
            (∀ earlier ∈ front, (s.options o).wrapper.get earlier ≠ []) ∧
            (s.options o).wrapper.get part = [] ∧
            ∃ mistake : ConfigError, Options.read t = .error mistake ∧
              mistake.message =
                "wrapper.".toList ++ part.name ++ " must not be empty".toList) := by
  rw [read_of_writes h]
  constructor
  case left =>
    intro hparts
    have hvalid := validate_eq_ok_iff.mpr ⟨rfl, hparts⟩
    refine ⟨hvalid, fun σ => ⟨{ options := s.options o }, ?_, rfl⟩⟩
    rw [Engine.withOptions, hvalid]
    rfl
  case right =>
    rintro ⟨part, hpart⟩
    cases hfirst : (s.options o).wrapper.firstEmpty? with
    | none => exact absurd hpart (Delimiters.firstEmpty?_eq_none_iff.mp hfirst part)
    | some part =>
      have herror : (s.options o).validate = .error (.emptyDelimiter part) := by
        rw [validate, hfirst]
      obtain ⟨hempty, front, back, hall, hfront⟩ := List.find?_eq_some_iff_append.mp hfirst
      refine ⟨front, part, back, hall, ?_, List.isEmpty_iff.mp hempty, _, herror, rfl⟩
      intro earlier hearlier hget
      have hnot := hfront earlier hearlier
      rw [hget] at hnot
      cases hnot

/-- Escapes, blanks and delimiters left out; then two empty delimiters, of which the one that stands
behind is named. -/
theorem read_document_partly :
    let o : Options := ⟨true, ['/', '😀'], ⟨[], ['é'], [], [')']⟩⟩
    let marked : Selection := ⟨[.wrapper, .fallbackValue], [.closer], by decide, by decide⟩
    let empty : Selection := ⟨[.wrapper], [.fallbackOpener, .opener], by decide, by decide⟩
    let text := (" \x7b\"wrapper\":\n\x7b \"end\" : \"\\u00e9\"\x7d," ++
      "\"fallbackValue\":\"\\/\\uD83D\\uDE00\"\x7d").toList
    Json.Writes (marked.document o) text ∧
      Options.read text = .ok { fallbackValue := ['/', '😀'], wrapper := { closer := ['é'] } } ∧
      (empty.document o).compact =
        "\x7b\"wrapper\":\x7b\"fallbackOpen\":\"\",\"start\":\"\"\x7d\x7d".toList ∧
      ∃ mistake, Options.read (empty.document o).compact = .error mistake ∧
        mistake.message = "wrapper.start must not be empty".toList := by
  intro o marked empty text
  have hclosing : Json.Writes (.string ['é']) "\"\\u00e9\"".toList :=
    .string (.cons (.unit (by decide)) .nil)
  have hend : Json.Writes (.string "end".toList) " \"end\" ".toList :=
    .before rfl (.behind (Json.writes_literal "end".toList) rfl)
  have hwrapper : Json.Writes (marked.value o .wrapper) "\n\x7b \"end\" : \"\\u00e9\"\x7d".toList :=
    .before rfl (.object (.last hend (.before rfl hclosing)))
  have hfallback : Json.Writes (.string ['/', '😀']) "\"\\/\\uD83D\\uDE00\"".toList :=
    .string (.cons (.spelled (.letter rfl)) (.cons (.pair rfl rfl rfl rfl (by decide)) .nil))
  have hwrites : Json.Writes (marked.document o) text :=
    .before rfl (.object (.cons (Json.writes_literal _) hwrapper
      (.last (Json.writes_literal _) hfallback)))
  obtain ⟨haccepted, -⟩ := read_document marked o hwrites
  obtain ⟨-, hrefused⟩ := read_document empty o (empty.writes_document o)
  obtain ⟨hread, -⟩ := haccepted (by rintro (_ | _ | _ | _) <;> decide)
  obtain ⟨front, part, back, hall, hfront, hpart, mistake, hmistake, hmessage⟩ :=
    hrefused ⟨.opener, by decide⟩
  cases front with
  | nil =>
    obtain ⟨rfl, -⟩ := List.cons.inj hall
    exact ⟨hwrites, hread, by decide +kernel, mistake, hmistake, hmessage⟩
  | cons earlier front =>
    obtain ⟨rfl, -⟩ := List.cons.inj hall
    exact absurd (by decide) (hfront .opener List.mem_cons_self)

end Options

end Stencil
