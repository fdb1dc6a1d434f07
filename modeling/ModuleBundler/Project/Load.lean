import ModuleBundler.FileSystem.Host
import ModuleBundler.Json.Document
import ModuleBundler.Path
import ModuleBundler.Project.Decode
import ModuleBundler.Project.Error
import ModuleBundler.Project.Setting

/-!
# Loading projects

A project is laid together from defaults, a file, variables and the command line. Each layer covers
the ones below it, setting by setting, and only the result has to be a project.
-/

namespace ModuleBundler.Project

open FileSystem (Host)
open Json (Value)

/-- What the command line sets. -/
structure Overrides where
  entry? : Option String := none
  directory? : Option String := none
  filename? : Option String := none
  deriving DecidableEq

def textMember (key : String) (value? : Option String) : List (String × Value) :=
  optionalMember key .string value?

/-- Only what is set takes part. -/
def Overrides.toJson (o : Overrides) : Value :=
  let output := textMember "directory" o.directory? ++ textMember "filename" o.filename?
  .object (textMember "entry" o.entry? ++
    if output.isEmpty then [] else [("output", .object output)])

/-- What variables set; of two for one setting, the later one counts. -/
def environmentLayer (environment : List (String × String)) : Value :=
  environment.foldl (fun found (name, text) =>
    match Setting.path? name with
    | some path => found.layer (Setting.nest path (Setting.read text))
    | none => found) (.object [])

def fileHint : String := "Check " ++ fileName ++ " syntax and field names"

/-- What a file sets; it holds one object. -/
def fileLayer (bytes : Text.Bytes) : Except Error Value :=
  match Text.decode? bytes with
  | none => .error (.invalid "the file is not valid UTF-8" fileHint)
  | some text =>
    match Json.parse text with
    | .ok (.object members) => .ok (.object members)
    | .ok v =>
      .error (.invalid ("invalid type: " ++ (Json.Document.ofValue v).describe ++
        ", expected a map") fileHint)
    | .error f => .error (.invalid (f.message text.toList) fileHint)

/-- The project that layers come to, from the lowest to the highest. -/
def ofLayers (layers : List Value) : Except Error Project :=
  match decoder ⟨false, true⟩ (Json.Document.ofValue (layers.foldl Value.layer (.object []))) with
  | .ok p => .ok p
  | .error e => .error (.invalid e.reason fileHint)

/-- The project that a file, variables and the command line come to. -/
def combine (file? : Option Text.Bytes) (environment : List (String × String))
    (overrides : Overrides) : Except Error Project := do
  let file ← match file? with
    | some bytes => fileLayer bytes
    | none => pure (.object [])
  ofLayers [({} : Project).toJson, file, environmentLayer environment, overrides.toJson]

variable {m : Type → Type} [Monad m]

/-- The file to read. One that was asked for must be there; the usual one need not. -/
def findFile (h : Host m) (asked? : Option String) (directory : String) :
    m (Except Error (Option String)) := do
  match asked? with
  | some path =>
    let path := Path.join directory path
    return if ← h.isFile path then .ok (some path) else .error (.notFound path)
  | none =>
    let path := Path.join directory fileName
    return .ok (if ← h.isFile path then some path else none)

/-- Loads the project of a working directory. -/
def load (h : Host m) (asked? : Option String) (environment : List (String × String))
    (overrides : Overrides) (directory : String) : m (Except Error Project) := do
  match ← findFile h asked? directory with
  | .error e => return .error e
  | .ok none => return combine none environment overrides
  | .ok (some path) =>
    match ← h.read path with
    | .error e => return .error (.invalid e.message fileHint)
    | .ok bytes => return combine (some bytes) environment overrides

end ModuleBundler.Project
