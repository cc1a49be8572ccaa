import Stencil.CommandLine.Command
import Stencil.Proofs.Options.Documents

/-!
# Options on the command line

The command `render` takes options from a file or starts from the default ones, and then its flags
replace two of them. It does the same without flags if they are replaced in the file already.

* `Command.Starts`: the options that are there before the flags.
* `Command.override`: what the flags make of them.
* `Command.execute_render`: options are all that `render` takes from flags and configuration.
* `Command.execute_render_override`: the flags agree with a file in which they are written.
-/

namespace Stencil

/-! ## Accepted options -/

namespace Options

theorem get_ne_nil_of_read {t : Text} {o : Options} (h : Options.read t = .ok o)
    (part : Delimiters.Part) : o.wrapper.get part ≠ [] := by
  rw [Options.read] at h
  split at h
  · cases h
  · obtain ⟨rfl, hparts⟩ := validate_eq_ok_iff.mp h
    exact hparts part

end Options

theorem Files.options_eq_ok_iff {files : Files} {path : Text} {o : Options} :
    files.options path = .ok o ↔ ∃ t, files path = .ok t ∧ Options.read t = .ok o := by
  rw [Files.options, Files.text]
  cases files path with
  | error e => simp [Except.mapError, bind, Except.bind]
  | ok t => cases hread : Options.read t <;> simp [Except.mapError, bind, Except.bind, hread]

namespace Command

variable {files others : Files} {template path t : Text} {data config fallback : Option Text}
  {strict : Bool} {o : Options}

/-! ## Options of `render` -/

/-- The options that are there before the flags: those of a file, or default ones. -/
inductive Starts (files : Files) : Option Text → Options → Prop
  | default : Starts files none {}
  | file {path : Text} {o : Options} (loads : files.options path = .ok o) :
      Starts files (some path) o

/-- Options with the flags of the command line. -/
def override (strict : Bool) (fallback : Option Text) (o : Options) : Options :=
  { o with strict := o.strict || strict, fallbackValue := fallback.getD o.fallbackValue }

theorem override_false_none (o : Options) : override false none o = o := by
  rw [override, Bool.or_false]
  rfl

theorem Starts.get_ne_nil (h : Starts files config o) (part : Delimiters.Part) :
    o.wrapper.get part ≠ [] := by
  cases h with
  | default => cases part <;> decide
  | file loads =>
    obtain ⟨t, -, hread⟩ := Files.options_eq_ok_iff.mp loads
    exact Options.get_ne_nil_of_read hread part

theorem Starts.optionsOf_eq (h : Starts files config o) (strict : Bool) (fallback : Option Text) :
    optionsOf files config strict fallback = .ok (override strict fallback o) := by
  cases h with
  | default => rfl
  | file loads =>
    rw [optionsOf, loads]
    rfl

/-! ## Rendering with them -/

/-- Renders the text of a file against the metadata of a file. -/
def renderWith (files : Files) (template : Text) (data : Option Text) (o : Options) :
    Except Error Text := do
  let engine : Engine Unit ← (Engine.withOptions o).mapError .config
  let source ← files.text template
  let values ← metadataOr files data
  (engine.render (engine.parse source) values ()).result.mapError .failure

/-- Flags and configuration only give the options to render with. -/
theorem execute_render (files : Files) (template : Text) (data config : Option Text) (strict : Bool)
    (fallback : Option Text) :
    execute files (.render template data config strict fallback) =
      (optionsOf files config strict fallback).bind (renderWith files template data) := rfl

/-- Rendering reads the template and the metadata, and no other file. -/
theorem renderWith_congr (h : ∀ p ∈ template :: data.toList, others p = files p) (o : Options) :
    renderWith others template data o = renderWith files template data o := by
  obtain ⟨htemplate, hdata⟩ := List.forall_mem_cons.mp h
  have hvalues : metadataOr others data = metadataOr files data := by
    cases data with
    | none => rfl
    | some path =>
      have hpath : others path = files path := hdata path (List.mem_singleton_self path)
      rw [metadataOr, metadataOr, Files.metadata, Files.metadata, Files.text, Files.text, hpath]
  rw [renderWith, renderWith, Files.text, Files.text, htemplate, hvalues]

/-- **Flags and configuration agree.** Take any files, and options that one of them gives, or the
default ones. Let a file hold a JSON text of these options, all of them in any order, with the flags
applied. Then `render` with this file as configuration and without flags gives the text or the error
that it gave with the flags, as long as template and metadata are read as before. -/
theorem execute_render_override {s : Options.Selection} (hstarts : Starts files config o)
    (hcomplete : s.Complete) (hwrites : Json.Writes (s.document (override strict fallback o)) t)
    (hwritten : others path = Files.decode (String.ofList t).toUTF8)
    (hothers : ∀ p ∈ template :: data.toList, others p = files p) :
    execute files (.render template data config strict fallback) =
      execute others (.render template data (some path) false none) := by
  -- flags leave the delimiters alone, so what was accepted without them is accepted again
  have hread : Options.read t = .ok (override strict fallback o) := by
    rw [Options.read_of_writes hwrites, hcomplete.options]
    exact Options.validate_eq_ok_iff.mpr ⟨rfl, hstarts.get_ne_nil⟩
  have hloads : others.options path = .ok (override strict fallback o) :=
    Files.options_eq_ok_iff.mpr ⟨t, by rw [hwritten, Files.decode_toUTF8], hread⟩
  have hrestarts : Starts others (some path) (override strict fallback o) := .file hloads
  calc execute files (.render template data config strict fallback)
      = renderWith files template data (override strict fallback o) := by
        rw [execute_render, hstarts.optionsOf_eq]
        rfl
    _ = renderWith others template data (override strict fallback o) :=
        (renderWith_congr hothers _).symm
    _ = execute others (.render template data (some path) false none) := by
        rw [execute_render, hrestarts.optionsOf_eq, override_false_none]
        rfl

/-- A file that changes one delimiter, and a flag that must be escaped in the other. -/
theorem execute_render_override_quoted :
    let o : Options := { wrapper := { opener := ['$', '('] } }
    let files := Files.ofDirectory
      [("page".toList, .ok "$(a@>> $(b@>>".toList), ("data".toList, .ok "a: 1".toList),
        ("options".toList, .ok "\x7b\"wrapper\": \x7b\"start\": \"$(\"\x7d\x7d".toList)]
    let text := (Options.Selection.all.document (override false (some ['"']) o)).compact
    let others := Function.update files "changed".toList (Files.decode (String.ofList text).toUTF8)
    files.options "options".toList = .ok o ∧
      execute files (.render "page".toList (some "data".toList) (some "options".toList) false
        (some ['"'])) = .ok "1 \"".toList ∧
      execute others (.render "page".toList (some "data".toList) (some "changed".toList) false
        none) = .ok "1 \"".toList := by
  intro o files text others
  have hloads : files.options "options".toList = .ok o := by decide +kernel
  have hothers : ∀ p ∈ "page".toList :: (some "data".toList).toList, others p = files p := by
    intro p hp
    have hne : p ≠ "changed".toList := by
      rintro rfl
      revert hp
      decide
    exact Function.update_of_ne hne _ _
  have hrender : execute files (.render "page".toList (some "data".toList) (some "options".toList)
      false (some ['"'])) = .ok "1 \"".toList := by decide +kernel
  have hagree := execute_render_override (Starts.file hloads) Options.Selection.complete_all
    (Options.Selection.writes_document _ _) (Function.update_self _ _ files) hothers
  exact ⟨hloads, hrender, hagree.symm.trans hrender⟩

end Command

end Stencil
