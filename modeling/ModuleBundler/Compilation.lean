import ModuleBundler.Graph
import ModuleBundler.Hook.Basic
import ModuleBundler.Path
import ModuleBundler.Text.Literal

/-!
# Compilations

The state of one run, as listeners see it. They may extend the graph; everything else changes as
the run proceeds.
-/

namespace ModuleBundler

/-- The stages of a run, in the order in which they occur. -/
inductive Phase where
  | init
  | build
  | graphAssembled
  | make
  | generate
  | emit
  | afterEmit
  | done
  deriving DecidableEq

namespace Phase

def name : Phase → String
  | .init => "init"
  | .build => "build"
  | .graphAssembled => "graph_assembled"
  | .make => "make"
  | .generate => "generate"
  | .emit => "emit"
  | .afterEmit => "after_emit"
  | .done => "done"

def describe : Phase → String
  | .init => "Init"
  | .build => "Build"
  | .graphAssembled => "GraphAssembled"
  | .make => "Make"
  | .generate => "Generate"
  | .emit => "Emit"
  | .afterEmit => "AfterEmit"
  | .done => "Done"

end Phase

/-- A file that a run has written. -/
structure Artifact where
  path : String
  /-- Its length in bytes. -/
  size : Nat
  moduleCount : Nat
  deriving DecidableEq

/-- Where the artifact goes. -/
structure OutputTarget where
  directory : String
  filename : String
  deriving DecidableEq

def OutputTarget.path (o : OutputTarget) : String := Path.join o.directory o.filename

structure Compilation where
  entry : ModuleId
  output : OutputTarget
  hooks : List Hook.Summary
  graph : Graph := .empty
  phase : Phase := .init
  artifact? : Option Artifact := none

namespace Compilation

def outputPath (c : Compilation) : String := c.output.path

/-- The names of a hook's listeners; an unknown hook has none. -/
def listeners (c : Compilation) (hook : String) : List String :=
  ((c.hooks.find? (·.name == hook)).map (·.listeners)).getD []

end Compilation

def ModuleId.describe (id : ModuleId) : String :=
  Text.application "ModuleId" [Text.literal id.path]

def Artifact.describe (a : Artifact) : String :=
  Text.record "Artifact" [("path", Text.literal a.path), ("size", toString a.size),
    ("module_count", toString a.moduleCount)]

def OutputTarget.describe (o : OutputTarget) : String :=
  Text.record "OutputTarget" [("directory", Text.literal o.directory),
    ("filename", Text.literal o.filename)]

def Compilation.describe (c : Compilation) : String :=
  Text.record "Compilation" [("entry", c.entry.describe), ("output", c.output.describe),
    ("phase", c.phase.describe), ("modules", toString c.graph.size),
    ("artifact", match c.artifact? with
      | none => "None"
      | some a => Text.application "Some" [a.describe])]

end ModuleBundler
