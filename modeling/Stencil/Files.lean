import Stencil.Entries

/-!
# Files

What can be read at a path. `Files.ofDirectory` is a directory that holds files and nothing else.
-/

namespace Stencil

/-- Why a file cannot be read. -/
inductive FileError where
  | notFound
  | notADirectory
  | isADirectory
  | nameTooLong
  | invalidName
  | notText
  | other (message : Text)
  deriving DecidableEq

/-- The reason in words. -/
def FileError.message : FileError → Text
  | .notFound => "No such file or directory (os error 2)".toList
  | .notADirectory => "Not a directory (os error 20)".toList
  | .isADirectory => "Is a directory (os error 21)".toList
  | .nameTooLong => "File name too long (os error 36)".toList
  | .invalidName => "file name contained an unexpected NUL byte".toList
  | .notText => "stream did not contain valid UTF-8".toList
  | .other message => message

/-- What reading gives at each path. -/
abbrev Files := Text → Except FileError Text

namespace Files

/-- The text of a file's bytes, which must be UTF-8. -/
def decode (bytes : ByteArray) : Except FileError Text :=
  match String.fromUTF8? bytes with
  | some s => .ok s.toList
  | none => .error .notText

/-- A file that holds a text is read as that text. -/
theorem decode_toUTF8 (t : Text) : decode (String.ofList t).toUTF8 = .ok t := by
  have hvalid : String.fromUTF8? (String.ofList t).toUTF8 = some (String.ofList t) :=
    dif_pos (String.ofList t).isValidUTF8
  rw [decode, hvalid]
  exact congrArg Except.ok String.toList_ofList

/-! ## The files of a directory -/

/-- Where a path has led so far: to the directory that holds the files, to a directory above it, or
to a file. -/
inductive Place where
  | inside
  | above
  | file (content : Except FileError Text)

/-- The greatest number of bytes in a name. -/
def longestName : Nat := 255

/-- The greatest number of bytes in a path. -/
def longestPath : Nat := 4095

/-- Follows one step of a path. Nothing is known of the directories above but that they are
there. -/
def Place.step (entries : Entries (Except FileError Text)) (name : Text) :
    Place → Except FileError Place
  | .file _ => .error .notADirectory
  | place =>
    if name = ['.'] then .ok place
    else if name = ['.', '.'] then .ok .above
    else if longestName < name.size then .error .nameTooLong
    else
      match place with
      | .inside =>
        match Entries.get? name entries with
        | some content => .ok (.file content)
        | none => .error .notFound
      | _ => .error .notFound

/-- The steps of a path. Slashes count as one; those at the front are left out, and those at the end
ask for a directory, as a step to the same place does. -/
def steps (path : Text) : List Text :=
  (Text.splitAt '/' path).filter (· ≠ []) ++ if path.getLast? = some '/' then [['.']] else []

/-- The files of a directory, as they are seen from inside it. -/
def ofDirectory (entries : Entries (Except FileError Text)) : Files := fun path => do
  if '\x00' ∈ path then throw .invalidName
  if path = [] then throw .notFound
  if longestPath < path.size then throw .nameTooLong
  let start := if path.head? = some '/' then Place.above else .inside
  match ← (steps path).foldlM (fun place name => place.step entries name) start with
  | .file content => content
  | _ => .error .isADirectory

end Files

end Stencil
