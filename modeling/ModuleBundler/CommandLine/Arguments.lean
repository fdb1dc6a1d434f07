/-!
# Arguments

The command line has flags, which may stand on both sides of the command, and the command `build`
with an entry and options. Words are taken in from left to right. An option's value is settled only
when the next word is taken in, so that an unknown word is reported before what is wrong with the
value in front of it.
-/

namespace ModuleBundler.CommandLine

/-- What may be said once, without a value. -/
inductive Flag where
  | verbose
  | quiet
  | noColor
  deriving DecidableEq

/-- What `build` may be told once, with a value. -/
inductive Slot where
  | entry
  | outDir
  | filename
  | config
  | cwd
  deriving DecidableEq

/-- Paths must not be empty. -/
def Slot.isPath : Slot → Bool
  | .outDir | .config | .cwd => true
  | .entry | .filename => false

/-- A request for a text instead of a run. -/
inductive Notice where
  | help
  | version
  deriving DecidableEq

/-- What a word in front of its value, if any, stands for. -/
inductive Meaning where
  | flag (f : Flag)
  | slot (s : Slot)
  | notice (n : Notice)
  deriving DecidableEq

/-- A set of flags and options by their long and short names. -/
structure Grammar where
  long? : String → Option Meaning
  short? : Char → Option Meaning

/-- What may stand on both sides of the command. -/
def Grammar.shared : Grammar where
  long?
    | "verbose" => some (.flag .verbose)
    | "quiet" => some (.flag .quiet)
    | "no-color" => some (.flag .noColor)
    | "help" => some (.notice .help)
    | _ => none
  short?
    | 'v' => some (.flag .verbose)
    | 'q' => some (.flag .quiet)
    | 'h' => some (.notice .help)
    | _ => none

def Grammar.program : Grammar where
  long? name := if name = "version" then some (.notice .version) else Grammar.shared.long? name
  short? c := if c = 'V' then some (.notice .version) else Grammar.shared.short? c

def Grammar.build : Grammar where
  long?
    | "out-dir" => some (.slot .outDir)
    | "filename" => some (.slot .filename)
    | "config" => some (.slot .config)
    | "cwd" => some (.slot .cwd)
    | name => Grammar.shared.long? name
  short?
    | 'o' => some (.slot .outDir)
    | 'f' => some (.slot .filename)
    | 'c' => some (.slot .config)
    | c => Grammar.shared.short? c

structure Arguments where
  verbose : Bool
  quiet : Bool
  noColor : Bool
  entry? : Option String
  outDir? : Option String
  filename? : Option String
  config? : Option String
  cwd? : Option String
  deriving DecidableEq

/-- Why the words are no command to run. -/
inductive Arguments.Error where
  | notice (n : Notice)
  /-- There is nothing on the command line. -/
  | nothingGiven
  | missingCommand
  | unknownCommand (word : String)
  | unknownWord (word : String)
  /-- A flag or an option is given twice, or two flags exclude each other. -/
  | conflict
  | missingValue
  | unneededValue (word : String)
  deriving DecidableEq

namespace Arguments

/-- What has been taken in. -/
structure Scan where
  flags : List Flag := []
  values : List (Slot × String) := []
  /-- The option or entry that was met last, with its value if that has been met too. -/
  pending? : Option (Slot × Option String) := none
  hasEntry : Bool := false
  deriving DecidableEq

namespace Scan

def store (s : Scan) (slot : Slot) (value : String) : Except Error Scan :=
  if (s.values.lookup slot).isSome then .error .conflict
  else if slot.isPath && value.isEmpty then .error .missingValue
  else .ok { s with values := (slot, value) :: s.values }

/-- Settles the value of what was met last. -/
def settle (s : Scan) : Except Error Scan :=
  match s.pending? with
  | none => .ok s
  | some (_, none) => .error .missingValue
  | some (slot, some value) => { s with pending? := none }.store slot value

def raise (s : Scan) (f : Flag) : Except Error Scan := do
  let s ← s.settle
  if s.flags.contains f then throw .conflict
  return { s with flags := f :: s.flags }

/-- Takes in an option with the value attached to it, or without one. -/
def option (s : Scan) (slot : Slot) (value? : Option String) : Except Error Scan := do
  let s ← s.settle
  match value? with
  | some value => s.store slot value
  | none => return { s with pending? := some (slot, none) }

def answer {α : Type} (s : Scan) (n : Notice) : Except Error α := do
  let _ ← s.settle
  throw (.notice n)

/-- Takes in a word behind two dashes. -/
def long (g : Grammar) (s : Scan) (body : List Char) : Except Error Scan :=
  let name := body.takeWhile (· != '=')
  let value? := if name.length < body.length then
    some (String.ofList (body.drop (name.length + 1))) else none
  match g.long? (String.ofList name), value? with
  | none, _ => .error (.unknownWord ("--" ++ String.ofList name))
  | some (.slot slot), value? => s.option slot value?
  | some _, some _ => .error (.unneededValue ("--" ++ String.ofList name))
  | some (.flag f), none => s.raise f
  | some (.notice n), none => s.answer n

/-- The value attached to a short option; a `=` in front is not part of it. -/
def attached? : List Char → Option String
  | [] => none
  | '=' :: r => some (String.ofList r)
  | r => some (String.ofList r)

/-- Takes in letters behind one dash, the first option of which takes the rest as its value. -/
def short (g : Grammar) : Scan → List Char → Except Error Scan
  | s, [] => .ok s
  | s, c :: r =>
    match g.short? c with
    | none => .error (.unknownWord ("-" ++ c.toString))
    | some (.flag f) => do short g (← s.raise f) r
    | some (.slot slot) => s.option slot (attached? r)
    | some (.notice n) => s.answer n

/-- Takes in the entry, of which there is at most one. -/
def positional (s : Scan) (word : String) : Except Error Scan := do
  if s.hasEntry then throw (.unknownWord word)
  let s ← s.settle
  return { s with pending? := some (.entry, some word), hasEntry := true }

/-- Takes in a word that is neither a flag nor an option. -/
def plain (s : Scan) (word : String) : Except Error Scan :=
  match s.pending? with
  | some (slot, none) => .ok { s with pending? := some (slot, some word) }
  | _ => s.positional word

/-- Flags that exclude each other. -/
def check (s : Scan) : Except Error Scan :=
  if s.flags.contains .verbose && s.flags.contains .quiet then .error .conflict else .ok s

end Scan

/-- How a word is written. -/
inductive Word where
  /-- All words behind it are plain. -/
  | dashes
  | long (body : List Char)
  | short (letters : List Char)
  | plain
  deriving DecidableEq

/-- A lone dash is a plain word. -/
def Word.ofText (text : String) : Word :=
  match text.toList with
  | ['-', '-'] => .dashes
  | '-' :: '-' :: body => .long body
  | '-' :: c :: r => .short (c :: r)
  | _ => .plain

/-- Takes in the words behind `build`. -/
def scanBuild : Scan → List String → Except Error Scan
  | s, [] => do (← s.settle).check
  | s, w :: ws =>
    match Word.ofText w with
    | .dashes => do (← (← ws.foldlM Scan.positional s).settle).check
    | .long body => do scanBuild (← s.long .build body) ws
    | .short letters => do scanBuild (← s.short .build letters) ws
    | .plain => do scanBuild (← s.plain w) ws

/-- What `help` is asked about must be a command. -/
def help : List String → Error
  | [] | ["build"] | ["help"] => .notice .help
  | "build" :: w :: _ | "help" :: w :: _ | w :: _ => .unknownCommand w

/-- Words behind two dashes are no commands. -/
def misplaced : List String → Scan → Error
  | [], s => if s.flags.isEmpty then .nothingGiven else .missingCommand
  | w :: _, _ => if w = "build" ∨ w = "help" then .unknownWord w else .unknownCommand w

/-- The flags in front of the command, and the words behind it. -/
def scanProgram : Scan → List String → Except Error (Scan × List String)
  | s, [] => .error (misplaced [] s)
  | s, w :: ws =>
    if w = "build" then .ok (s, ws)
    else if w = "help" then .error (help ws)
    else match Word.ofText w with
      | .dashes => .error (misplaced ws s)
      | .long body => do scanProgram (← s.long .program body) ws
      | .short letters => do scanProgram (← s.short .program letters) ws
      | .plain => .error (.unknownCommand w)

/-- The arguments that words stand for. Flags count on whichever side of the command they are. -/
def parse (words : List String) : Except Error Arguments := do
  let (outer, rest) ← scanProgram {} words
  let inner ← scanBuild {} rest
  let outer ← outer.check
  let isSet (f : Flag) : Bool := outer.flags.contains f || inner.flags.contains f
  return {
    verbose := isSet .verbose
    quiet := isSet .quiet
    noColor := isSet .noColor
    entry? := inner.values.lookup .entry
    outDir? := inner.values.lookup .outDir
    filename? := inner.values.lookup .filename
    config? := inner.values.lookup .config
    cwd? := inner.values.lookup .cwd }

end Arguments

end ModuleBundler.CommandLine
