import ModuleBundler.Bundle.Script
import ModuleBundler.Bundle.Writer
import ModuleBundler.Compiler.Config
import ModuleBundler.Graph.Walk
import ModuleBundler.Hook.Invocation

/-!
# Compilers

A compiler is a valid configuration with the registry that its plugins have made. A run builds the
entry, calls `compilation`, expands the graph, calls `make`, checks the graph, writes the artifact,
and calls `emit` and `after_emit`. A failure up to the artifact ends the run with nothing written; a
later one says that the artifact is there.
-/

namespace ModuleBundler

open FileSystem (Host)

structure Compiler where
  settings : Compiler.Settings
  registry : Hook.Registry
  /-- The names of the plugins in the order in which they were applied. -/
  plugins : List String

namespace Compiler

/-- Applies plugins in order; what they say is kept also when one fails. -/
def applyPlugins (s : Settings) (notes : List String) (r : Hook.Registry) :
    List Plugin → List String × Except Bundle.Error Hook.Registry
  | [] => (notes, .ok r)
  | p :: ps =>
    let setup := p.apply s r
    let notes := notes ++ setup.notes
    match setup.outcome with
    | .error cause => (notes, .error (.pluginSetup p.name cause))
    | .ok _ => applyPlugins s notes setup.registry ps

/-- A compiler for a configuration, after what the plugins said. -/
def ofConfig (c : Config) : List String × Except Bundle.Error Compiler :=
  match c.validate with
  | .error e => ([], .error e)
  | .ok _ =>
    let (notes, registry) := applyPlugins c.toSettings [] .builtin c.plugins
    (notes, registry.map fun registry =>
      ⟨c.toSettings, registry, c.plugins.map (·.name)⟩)

variable {m : Type → Type} [Monad m]

/-- The working directory of a run. -/
def workingDirectory (c : Compiler) (h : Host m) : m (Except FileSystem.Error String) := do
  match c.settings.workingDirectory? with
  | none =>
    match ← h.workingDirectory with
    | .error e => return .error e
    | .ok directory =>
      if Path.isRooted directory then return .ok directory
      else return (← h.workingDirectory).map fun base => Path.join base directory
  | some directory =>
    if Path.isRooted directory then return .ok directory
    else return (← h.workingDirectory).map fun base => Path.join base directory

/-- The compilation that a run in a working directory starts from. -/
def compilationIn (c : Compiler) (directory : String) : Except ModuleId.Error Compilation := do
  let entry ← ModuleId.ofBase c.settings.entry directory
  return {
    entry
    output := ⟨Path.clean (Path.join directory c.settings.output.directory),
      c.settings.output.filename⟩
    hooks := c.registry.summaries }

/-- A module builder as the configuration asks for. -/
def builder {n : Type → Type} (c : Compiler) (h : Host n) : Builder n where
  host := h
  loaders := c.settings.rules
  transformer := c.settings.transformer
  extensions := c.settings.extensions.map Builder.dotted

structure Success where
  artifact : Artifact
  entry : ModuleId
  deriving DecidableEq

/-- A stage of a run, which may end it. -/
abbrev Step (m : Type → Type) := ExceptT Bundle.Error (Hook.Action m)

def enter (phase : Phase) : Step m Unit := modifyThe Compilation fun c => { c with phase }

/-- Takes a result that may end the run. -/
def check {α ε : Type} (wrap : ε → Bundle.Error) (result : Except ε α) : Step m α :=
  match result with
  | .ok a => return a
  | .error e => throw (wrap e)

def inHost {α : Type} (action : m α) : Step m α := liftM action

def withHooks {α : Type} (action : Hook.Action m α) : Step m α := liftM action

/-- Builds the entry and adds it to the graph. -/
def buildEntry (c : Compiler) (h : Host m) : Step m Module := do
  enter .build
  let entry := (← getThe Compilation).entry
  let built ← check .build (← inHost ((c.builder h).build entry))
  check .graph (← withHooks (Hook.insertModule built))
  return built

def callCompilation (c : Compiler) (s : Hook.Stage m) (fuel : Nat) : Step m Unit := do
  enter .graphAssembled
  check .hook (← withHooks (Hook.invokeSync s fuel c.registry Hook.compilation))

/-- Expands the graph, calls `make`, and checks that the graph is closed. -/
def makeGraph (c : Compiler) (s : Hook.Stage m) (fuel : Nat) (entry : Module) : Step m Unit := do
  enter .make
  let graph := (← getThe Compilation).graph
  match ← inHost (Graph.expandInto (c.builder s.host) c.settings.maxModules? fuel entry graph) with
  | none => withHooks Hook.outOfFuel
  | some o =>
    modifyThe Compilation fun c => { c with graph := o.graph }
    let _ ← check .build o.result
    check .hook (← withHooks (Hook.invoke s fuel c.registry Hook.make))
    let now ← getThe Compilation
    check .graph (now.graph.validate now.entry)

/-- Writes the bundle of the graph as it is now. -/
def writeBundle (c : Compiler) (h : Host m) : Step m Artifact := do
  enter .generate
  let now ← getThe Compilation
  let code := Bundle.render c.settings.output.banner? now.graph now.entry
  let path ← check id <|
    ← inHost (Bundle.writeArtifact h now.output.directory now.output.filename code)
  let artifact : Artifact := ⟨path, code.utf8ByteSize, now.graph.size⟩
  modifyThe Compilation fun c => { c with artifact? := some artifact }
  return artifact

/-- Calls a hook for an artifact that is there already. -/
def callAfterWriting (c : Compiler) (s : Hook.Stage m) (fuel : Nat) (artifact : Artifact)
    (phase : Phase) (hook : String) : Step m Unit := do
  enter phase
  check (.postProcess artifact.path) (← withHooks (Hook.invoke s fuel c.registry hook))

/-- The stages up to a graph that is fit to be written. -/
def assemble (c : Compiler) (s : Hook.Stage m) (fuel : Nat) : Step m Unit := do
  let entry ← c.buildEntry s.host
  c.callCompilation s fuel
  c.makeGraph s fuel entry

/-- The stages from the writing of the artifact on. -/
def conclude (c : Compiler) (s : Hook.Stage m) (fuel : Nat) : Step m Success := do
  let artifact ← c.writeBundle s.host
  c.callAfterWriting s fuel artifact .emit Hook.emit
  c.callAfterWriting s fuel artifact .afterEmit Hook.afterEmit
  enter .done
  return ⟨artifact, (← getThe Compilation).entry⟩

/-- The stages of a run. -/
def stages (c : Compiler) (h : Host m) (say : String → m Unit) (fuel : Nat) : Step m Success := do
  let s : Hook.Stage m := ⟨h, say, c.registry⟩
  c.assemble s fuel
  c.conclude s fuel

/-- How a run ended, and the compilation at its end unless it did not begin. -/
structure Ending where
  result : Except Bundle.Error Success
  compilation? : Option Compilation

/-- Runs a compiler once. `none` means that more than `fuel` modules had to be built, or that the
listeners took more turns. -/
def run (c : Compiler) (h : Host m) (say : String → m Unit) (fuel : Nat) : m (Option Ending) := do
  match ← c.workingDirectory h with
  | .error e => return some ⟨.error (.fileSystem e), none⟩
  | .ok directory =>
    match c.compilationIn directory with
    | .error e => return some ⟨.error (.build (.invalidId e)), none⟩
    | .ok start =>
      let (result?, final) ← ((c.stages h say fuel).run.run).run start
      return result?.map fun result => ⟨result, some final⟩

end Compiler

end ModuleBundler
