import ModuleBundler.Compiler.Config
import ModuleBundler.Json.Value

/-!
# Projects

What a project file says: where to start, where to write, which loaders and plugins to use by name.
A written project leaves out what is absent, but not its sections.
-/

namespace ModuleBundler

/-- The names of a rule's loaders: one, or a chain whose last one runs first. -/
inductive Project.LoaderNames where
  | one (name : String)
  | chain (names : List String)
  deriving DecidableEq

structure Project.Rule where
  /-- A regular expression for paths. -/
  test : String
  use : Project.LoaderNames
  deriving DecidableEq

structure Project where
  /-- The entry module, from the working directory on. -/
  entry? : Option String := none
  output : Compiler.Output := {}
  rules : List Project.Rule := []
  plugins : List String := []
  extensions : List String := []
  maxModules? : Option Nat := none

namespace Project

open Json (Value)

/-- The file that is looked for in the working directory. -/
def fileName : String := "bindle.config.json"

def LoaderNames.names : LoaderNames → List String
  | .one name => [name]
  | .chain names => names

def strings (ss : List String) : Value := .array (ss.map .string)

def LoaderNames.toJson : LoaderNames → Value
  | .one name => .string name
  | .chain names => strings names

def Rule.toJson (r : Rule) : Value :=
  .object [("test", .string r.test), ("use", r.use.toJson)]

/-- A member for a value that may be absent. -/
def optionalMember {α : Type} (key : String) (f : α → Value) : Option α → List (String × Value)
  | none => []
  | some a => [(key, f a)]

/-- A member for a list, unless it is empty. -/
def listMember {α : Type} (key : String) (f : α → Value) (items : List α) :
    List (String × Value) :=
  if items.isEmpty then [] else [(key, .array (items.map f))]

def outputJson (o : Compiler.Output) : Value :=
  .object ([("directory", .string o.directory), ("filename", .string o.filename)] ++
    optionalMember "banner" .string o.banner?)

def toJson (p : Project) : Value :=
  .object (optionalMember "entry" .string p.entry? ++
    [("output", outputJson p.output),
      ("module", .object (listMember "rules" Rule.toJson p.rules ++
        listMember "plugins" .string p.plugins)),
      ("resolve", .object (listMember "extensions" .string p.extensions))] ++
    optionalMember "maxModules" (fun n => .number (.natural n)) p.maxModules?)

end Project

end ModuleBundler
