import ModuleBundler.Compiler.Config

/-!
# Built-in plugins

`manifest` writes beside the artifact what is in it; `timing` says how far a run has come.
-/

namespace ModuleBundler.Plugin

open Compiler (Plugin Setup)
open Hook (Listener Task)

/-- Registers listeners on hooks under one name, up to the first that is rejected. -/
def tapAll (name : String) : Hook.Registry → List (String × Listener) → Setup
  | r, [] => { registry := r }
  | r, (hook, l) :: taps =>
    match r.register hook name l with
    | .ok r => tapAll name r taps
    | .error e => { registry := r, outcome := .error e.toCause }

/-- The modules of the graph with their dependencies. -/
def manifestJson (c : Compilation) : Json.Value :=
  .object [("entry", c.entry.toJson), ("bundle", .string c.outputPath),
    ("modules", .array (c.graph.modules.map fun m =>
      .object [("id", m.id.toJson), ("dependencies", Dependencies.toJson m.dependencies)]))]

def manifestPath (c : Compilation) : String :=
  Path.join c.output.directory (c.output.filename ++ ".manifest.json")

def writeManifest : Task true :=
  .look fun c =>
    .write rfl (manifestPath c) (Text.encode (manifestJson c).pretty) fun result =>
      match result with
      | .ok _ => .succeed
      | .error e => .fail e.message

def manifest : Plugin where
  name := "manifest"
  isRegistrar := true
  apply _ r := tapAll "manifest" r [(Hook.afterEmit, .async writeManifest)]

/-- Says something about the compilation. -/
def saying (note : Compilation → String) : Listener :=
  .sync (.look fun c => .say (note c) .succeed)

def timing : Plugin where
  name := "timing"
  apply _ r := tapAll "timing" r
    [(Hook.compilation, saying fun c => "entry built: " ++ c.entry.path),
      (Hook.make, saying fun c => "graph complete: " ++ toString c.graph.size ++ " modules"),
      (Hook.emit, saying fun c =>
        "bundle emitted: " ++ toString ((c.artifact?.map (·.size)).getD 0) ++ " bytes")]

def builtins : List Plugin := [manifest, timing]

def builtinNames : List String := builtins.map (·.name)

def builtin? (name : String) : Option Plugin := builtins.find? (·.name == name)

end ModuleBundler.Plugin
