import Stencil.CommandLine.Command
import Stencil.Proofs.Json.Pretty

/-!
# Printed skeletons

The command `metadata` prints the skeleton of a template, and a file with this text can be given to
`render` as metadata.

* `Template.fits_skeleton`: a skeleton needs as much room as its longest path has segments.
* `Command.metadata_execute_metadata`: what was printed is loaded as the skeleton.
-/

namespace Stencil

open Json

theorem Template.fits_skeleton {room : Nat} (hroom : 0 < room) {template : Template}
    (h : ∀ token ∈ template.tokens, (segments token.path).length ≤ room) :
    Fits room template.skeleton := by
  have key : ∀ (tokens : List Token) (data : Json), Fits room data →
      (∀ token ∈ tokens, (segments token.path).length ≤ room) →
      Fits room (tokens.foldl (fun data token => sketch data token.toPlaceholder) data) := by
    intro tokens
    induction tokens with
    | nil => exact fun _ hdata _ => hdata
    | cons token more ih =>
      intro data hdata hpaths
      apply ih _ (hdata.assign (hpaths token List.mem_cons_self) token.fallbackText)
      exact fun other hother => hpaths other (List.mem_cons_of_mem _ hother)
  obtain ⟨room, rfl⟩ := Nat.exists_eq_succ_of_ne_zero hroom.ne'
  have hempty : Fits (room + 1) (.object []) := .object List.nodup_nil fun _ hmem => by cases hmem
  exact key template.tokens _ hempty h

/-- **Printed metadata is read back.** For a readable template whose paths have no more segments
than objects may be open, the command `metadata` succeeds, and a file that holds the text it prints
is loaded as the skeleton of the template, with the same keys in the same order. -/
theorem Command.metadata_execute_metadata (files : Files) {path source : Text}
    (hsource : files path = .ok source)
    (hpaths : ∀ token ∈ scan {} source, (segments token.path).length ≤ 127) :
    ∃ t, execute files (.metadata path) = .ok t ∧
      ∀ (others : Files) (printed : Text),
        others printed = Files.decode (String.ofList t).toUTF8 →
        others.metadata printed = .ok (Template.parse {} source).skeleton := by
  have hfits : Fits Written.greatestDepth (Template.parse {} source).skeleton :=
    Template.fits_skeleton (by decide) hpaths
  refine ⟨(Template.parse {} source).skeleton.pretty, ?_, ?_⟩
  · rw [execute, Files.text, hsource]
    rfl
  · intro others printed hprinted
    rw [Files.decode_toUTF8] at hprinted
    have hread : readMetadata (Template.parse {} source).skeleton.pretty =
        .ok (Template.parse {} source).skeleton := by
      rw [readMetadata, read?_pretty hfits]
      rfl
    rw [Files.metadata, Files.text, hprinted]
    exact congrArg (Except.mapError Error.config) hread

/-- A key with a quote, and a text with a backslash and a control character. -/
theorem Command.metadata_execute_metadata_escaped :
    let source := "<<@a.q\"@>>[(\\\x01)] <<@a.b@>>".toList
    let tree := Json.object
      [(['a'], .object [(['q', '"'], .string ['\\', '\x01']), (['b'], .string [])])]
    let files : Files := fun _ => .ok source
    let text := ("\x7b\n  \"a\": \x7b\n    \"q\\\"\": \"\\\\\\u0001\",\n" ++
      "    \"b\": \"\"\n  \x7d\n\x7d").toList
    let others : Files := fun _ => Files.decode (String.ofList text).toUTF8
    (∀ token ∈ scan {} source, (segments token.path).length ≤ 127) ∧
      execute files (.metadata "page".toList) = .ok text ∧
      others.metadata "data".toList = .ok tree := by
  intro source tree files text others
  have hpaths : ∀ token ∈ scan {} source, (segments token.path).length ≤ 127 := by decide +kernel
  have htokens : (scan {} source).map Token.toPlaceholder =
      [⟨none, "a.q\"".toList, [], some ['\\', '\x01']⟩, ⟨none, "a.b".toList, [], none⟩] := by
    decide +kernel
  have hskeleton : (Template.parse {} source).skeleton = tree := by
    rw [Template.skeleton, Template.parse, ← List.foldl_map, htokens]
    rfl
  have hpretty : (Template.parse {} source).skeleton.pretty = text := by
    rw [hskeleton]
    decide +kernel
  have hprinted : execute files (.metadata "page".toList) = .ok text := congrArg Except.ok hpretty
  obtain ⟨t, ht, hloaded⟩ := @metadata_execute_metadata files "page".toList source rfl hpaths
  obtain rfl : t = text := Except.ok.inj (ht.symm.trans hprinted)
  exact ⟨hpaths, hprinted, hskeleton ▸ hloaded others "data".toList rfl⟩

end Stencil
