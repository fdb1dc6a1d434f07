import ModuleBundler.Bundle.Error
import ModuleBundler.Hook.Registry

/-!
# Configurations and plugins

What a compiler is told: where to start, where to write, how to treat files, and which plugins to
apply. A plugin sees the configuration without the plugins and acts on the registry of hooks.
-/

namespace ModuleBundler.Compiler

structure Output where
  directory : String := "dist"
  filename : String := "main.js"
  /-- Becomes the first line of the bundle as it is. -/
  banner? : Option String := none

/-- A configuration apart from its plugins. -/
structure Settings where
  /-- The entry module, from the working directory on. -/
  entry : String
  output : Output := {}
  rules : Loader.Pipeline := []
  /-- What is tried at the end of a path that leads to no file. -/
  extensions : List String := []
  maxModules? : Option Nat := none
  /-- In place of the host's working directory. -/
  workingDirectory? : Option String := none
  transformer : Transformer := .imports

/-- What a plugin did to the registry, what it said meanwhile, and how it ended. -/
structure Setup where
  registry : Hook.Registry
  notes : List String := []
  outcome : Hook.Outcome := .ok ()

/-- A plugin acts on the registry when a compiler is made. -/
structure Plugin where
  name : String
  /-- Whether the plugin is an object that registers itself, as opposed to a function. -/
  isRegistrar : Bool := false
  apply : Settings → Hook.Registry → Setup

def Plugin.describe (p : Plugin) : String :=
  Text.application (if p.isRegistrar then "Plugin::Registrar" else "Plugin::Callable")
    [Text.literal p.name]

structure Config extends Settings where
  plugins : List Plugin := []

/-- A plain file name is a single component that no separator is part of. -/
def isPlainFileName (name : String) : Bool :=
  Path.fileName? name == some name && !name.toList.any fun c => c == '/' || c == '\\'

def Settings.validate (s : Settings) : Except Bundle.Error Unit := do
  if s.entry.isEmpty then throw (.invalidConfig "an entry module is required")
  if s.output.filename.isEmpty then throw (.invalidConfig "output filename must not be empty")
  if !isPlainFileName s.output.filename then
    throw (.invalidConfig
      ("output filename '" ++ s.output.filename ++ "' must be a plain file name"))
  if s.maxModules? = some 0 then throw (.invalidConfig "max_modules must be at least 1")

end ModuleBundler.Compiler
