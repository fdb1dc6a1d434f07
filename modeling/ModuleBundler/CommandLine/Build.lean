import ModuleBundler.CommandLine.Arguments
import ModuleBundler.CommandLine.Error
import ModuleBundler.Compiler.Run
import ModuleBundler.Project.Config
import ModuleBundler.Project.Load

/-!
# The build command

Loads the project of the working directory, makes a compiler for it, and runs it once.
-/

namespace ModuleBundler.CommandLine

open FileSystem (Host)

/-- What a command has around it. -/
structure Surroundings (m : Type → Type) where
  host : Host m
  isDirectory : String → m Bool
  environment : List (String × String)
  /-- Where listeners say something. -/
  say : String → m Unit

variable {m : Type → Type} [Monad m]

/-- The directory that the arguments name, or else the one that the command is run in. -/
def workingDirectory (s : Surroundings m) (cwd? : Option String) : m (Except Error String) := do
  match ← s.host.workingDirectory with
  | .error e => return .error (.system false e.message)
  | .ok current =>
    let directory := cwd?.elim current (Path.join current)
    return if ← s.isDirectory directory then .ok directory
      else .error (.invalidArgument ("working directory " ++ directory ++ " does not exist"))

def Arguments.overrides (a : Arguments) : Project.Overrides where
  entry? := a.entry?
  directory? := a.outDir?
  filename? := a.filename?

/-- The compiler for the project of a directory. -/
def compilerFor (p : Project) (directory : String) : List String × Except Error Compiler :=
  match p.toConfig directory with
  | .error e => ([], .error (.project e))
  | .ok c =>
    let (notes, compiler) := Compiler.ofConfig c
    (notes, compiler.mapError .bundle)

/-- Runs the command. `none` means that `fuel` did not suffice for the run. -/
def build (s : Surroundings m) (fuel : Nat) (a : Arguments) :
    m (Option (Except Error Compiler.Success)) := do
  match ← workingDirectory s a.cwd? with
  | .error e => return some (.error e)
  | .ok directory =>
    match ← Project.load s.host a.config? s.environment a.overrides directory with
    | .error e => return some (.error (.project e))
    | .ok project =>
      let (notes, compiler) := compilerFor project directory
      notes.forM s.say
      match compiler with
      | .error e => return some (.error e)
      | .ok c => return (← c.run s.host s.say fuel).map fun ending => ending.result.mapError .bundle

end ModuleBundler.CommandLine
