import Stencil.CommandLine.Command

/-!
# Reading the command line

Words are read from left to right, first those before the name of a command and then those of the
command. A word is a long or a short option, the value of an option, or the template. Everything
behind a word of two dashes is not an option.

A value is checked only when the next option, or the end, settles it. So a word that is not
understood comes before a mistake in the value just before it, but not before earlier ones.
-/

namespace Stencil.CommandLine

/-! ## Words -/

/-- Why a command line is not carried out. The first three ask for a text. -/
inductive Refusal where
  | help
  | version
  | helpForNothing
  | missingCommand
  | missingArgument
  | unknownCommand
  | unknownArgument
  | invalidValue
  | tooManyValues
  | repeatedOption
  deriving DecidableEq

/-- Where options stand: before the command, or behind one of the three. -/
inductive Level where
  | top
  | render
  | metadata
  | convert
  deriving DecidableEq

/-- An option without a value. -/
inductive Switch where
  | help
  | version
  | verbose
  | strict
  | shows
  deriving DecidableEq

/-- What takes a value: the template, or an option. -/
inductive Slot where
  | template
  | metadata
  | config
  | fallback
  deriving DecidableEq

namespace Level

/-- The command of a name. -/
def ofName? (t : Text) : Option Level :=
  if t = "render".toList then some .render
  else if t = "metadata".toList then some .metadata
  else if t = "convert".toList then some .convert
  else none

/-- The switches of a level with their long names. -/
def switches : Level → List (Text × Switch)
  | .top => [("help".toList, .help), ("version".toList, .version), ("verbose".toList, .verbose)]
  | .render => [("help".toList, .help), ("verbose".toList, .verbose), ("strict".toList, .strict)]
  | .metadata => [("help".toList, .help), ("verbose".toList, .verbose)]
  | .convert => [("help".toList, .help), ("verbose".toList, .verbose), ("render".toList, .shows)]

/-- The options with values of a level, with their long names. -/
def slots : Level → List (Text × Slot)
  | .top => []
  | .render =>
    [("metadata".toList, .metadata), ("config".toList, .config), ("fallback".toList, .fallback)]
  | .metadata => []
  | .convert => [("metadata".toList, .metadata)]

/-- The switch of a short name. -/
def shortSwitch? (level : Level) (c : Char) : Option Switch :=
  if c = 'h' then some .help
  else if c = 'v' then some .verbose
  else if c = 'V' ∧ level = .top then some .version
  else none

/-- The option with a value of a short name. -/
def shortSlot? (level : Level) (c : Char) : Option Slot :=
  if c = 'm' ∧ (level = .render ∨ level = .convert) then some .metadata
  else if c = 'c' ∧ level = .render then some .config
  else none

end Level

/-! ## What has been read -/

/-- The switches and values that have been read, and a slot whose value is still open or not
settled. `plain` says that no more options follow. -/
structure Words where
  switches : List Switch
  values : List (Slot × Text)
  pending : Option (Slot × Option Text)
  plain : Bool

namespace Words

/-- Nothing has been read. -/
def none : Words := ⟨[], [], .none, false⟩

/-- The value of a slot. -/
def value? (slot : Slot) (w : Words) : Option Text := w.values.lookup slot

/-- Gives a slot its value. Only once, and a path must not be empty. -/
def give (slot : Slot) (value : Text) (w : Words) : Except Refusal Words :=
  if (w.value? slot).isSome then .error .repeatedOption
  else if slot ≠ .fallback ∧ value = [] then .error .invalidValue
  else .ok { w with values := w.values ++ [(slot, value)] }

/-- Settles what is pending. -/
def settle (w : Words) : Except Refusal Words :=
  match w.pending with
  | .none => .ok w
  | some (_, .none) => .error .invalidValue
  | some (slot, some value) => { w with pending := .none }.give slot value

/-- Turns a switch on. -/
def turnOn (switch : Switch) (w : Words) : Except Refusal Words := do
  let w ← w.settle
  match switch with
  | .help => .error .help
  | .version => .error .version
  | switch =>
    if switch ∈ w.switches then .error .repeatedOption
    else .ok { w with switches := switch :: w.switches }

/-- Begins an option whose value, if it is not given with it, is the next word. -/
def begin (slot : Slot) (value : Option Text) (w : Words) : Except Refusal Words := do
  let w ← w.settle
  match value with
  | .none => .ok { w with pending := some (slot, .none) }
  | some value => w.give slot value

/-- Was the template given? -/
def hasTemplate (w : Words) : Bool :=
  (w.value? .template).isSome || w.pending.any (·.1 == .template)

/-! ## Options -/

/-- Reads a long option, from behind its dashes. -/
def long (level : Level) (t : Text) (w : Words) : Except Refusal Words :=
  let (name, value) :=
    match Text.cut? ['='] t with
    | .none => (t, Option.none)
    | some (name, value) => (name, some value)
  match level.switches.lookup name, value with
  | some switch, .none => w.turnOn switch
  | some _, some _ => .error .tooManyValues
  | .none, value =>
    match level.slots.lookup name with
    | some slot => w.begin slot value
    | .none => .error .unknownArgument

/-- Reads short options, from behind their dash. -/
def short (level : Level) : Text → Words → Except Refusal Words
  | [], w => .ok w
  | c :: t, w =>
    match level.shortSwitch? c with
    | some switch => (w.turnOn switch).bind (short level t)
    | .none =>
      match level.shortSlot? c with
      | .none => .error .unknownArgument
      | some slot =>
        match t with
        | [] => w.begin slot .none
        | '=' :: value => w.begin slot (some value)
        | value => w.begin slot (some value)

/-- Reads a word that is no option. -/
def plainWord (word : Text) (w : Words) : Except Refusal Words :=
  if w.hasTemplate then .error .unknownArgument
  else do
    let w ← w.settle
    pure { w with pending := some (.template, some word) }

/-- Reads an option, or sees that a word is none. -/
def option? (level : Level) (w : Words) : Text → Option (Except Refusal Words)
  | ['-'] => .none
  | ['-', '-'] => some (.ok { w with plain := true })
  | '-' :: '-' :: t => some (w.long level t)
  | '-' :: t => some (w.short level t)
  | _ => .none

/-- Reads a word of a command. -/
def step (level : Level) (w : Words) (word : Text) : Except Refusal Words :=
  if w.plain then w.plainWord word
  else
    match w.option? level word with
    | some result => result
    | .none =>
      match w.pending with
      | some (slot, .none) => .ok { w with pending := some (slot, some word) }
      | _ => w.plainWord word

/-! ## Commands -/

/-- The command that has been read. -/
def command (level : Level) (w : Words) : Except Refusal Command :=
  match w.value? .template with
  | .none => .error .missingArgument
  | some template =>
    let metadata := w.value? .metadata
    match level with
    | .top => .error .missingCommand
    | .render =>
      .ok (.render template metadata (w.value? .config) (.strict ∈ w.switches)
        (w.value? .fallback))
    | .metadata => .ok (.metadata template)
    | .convert =>
      if .shows ∈ w.switches ∧ metadata.isNone then .error .missingArgument
      else .ok (.convert template (.shows ∈ w.switches) metadata)

end Words

/-- Reads the words of a command. Also tells whether it is to be verbose. -/
def readCommand (level : Level) (words : List Text) : Except Refusal (Command × Bool) := do
  let w ← words.foldlM (Words.step level) Words.none
  let w ← w.settle
  let command ← w.command level
  pure (command, .verbose ∈ w.switches)

/-- Reads the words behind `help`, which name a command or nothing. -/
def readHelp : List Text → Refusal
  | [] => .help
  | [name] => if (Level.ofName? name).isSome ∨ name = "help".toList then .help else .unknownCommand
  | _ => .unknownCommand

/-- Reads the words before a command, and the command. -/
def readFrom (w : Words) : List Text → Except Refusal (Command × Bool)
  | [] => .error (if w.switches = [] then .helpForNothing else .missingCommand)
  | word :: more =>
    if w.plain then
      if (Level.ofName? word).isSome ∨ word = "help".toList then .error .unknownArgument
      else .error .unknownCommand
    else if word = "help".toList then .error (readHelp more)
    else
      match Level.ofName? word with
      | some level =>
        (readCommand level more).map fun (command, verbose) =>
          (command, verbose || w.switches.contains .verbose)
      | none =>
        match w.option? .top word with
        | some result => result.bind fun w => readFrom w more
        | none => .error .unknownCommand

/-- Reads a command line without the name of the program. Gives the command, and whether it is to be
verbose. -/
def read (words : List Text) : Except Refusal (Command × Bool) := readFrom Words.none words

end Stencil.CommandLine
