import ModuleBundler.Loader.Builtin
import ModuleBundler.Plugin.Builtin
import ModuleBundler.Project
import ModuleBundler.Project.Error

/-!
# From projects to configurations

Names are looked up among what is built in. The first defect is reported: the entry's, then those
of the rules from top to bottom, then those of the plugins.
-/

namespace ModuleBundler.Project

/-- The entry, unless it is absent or blank. -/
def givenEntry? (p : Project) : Option String :=
  p.entry?.filter fun entry => !(Unicode.trim entry).isEmpty

def entryHint : String :=
  "Pass an entry module (\x60bindle build src/index.js\x60) or set \"entry\" in " ++ fileName

def findLoader (name : String) : Except Error Loader :=
  match Loader.builtin? name with
  | some l => .ok l
  | none => .error (.unknownLoader name Loader.builtinNames)

def findPlugin (name : String) : Except Error Compiler.Plugin :=
  match Plugin.builtin? name with
  | some p => .ok p
  | none => .error (.unknownPlugin name Plugin.builtinNames)

/-- A rule's pattern, then its loaders from left to right; a rule without loaders is none. -/
def Rule.toRule (r : Rule) : Except Error Loader.Rule := do
  match Regex.Expression.read r.test with
  | .error fault => throw (.invalidPattern r.test fault.message)
  | .ok e =>
    match r.use with
    | .one name => return ⟨.pattern r.test e, .single (← findLoader name)⟩
    | .chain names =>
      let loaders ← names.mapM findLoader
      if loaders.isEmpty then
        throw (.invalid ("rule '" ++ r.test ++ "' has an empty \x60use\x60 list")
          ("Name at least one loader: " ++ ", ".intercalate Loader.builtinNames))
      return ⟨.pattern r.test e, .chain loaders⟩

/-- The configuration of a project in a working directory. -/
def toConfig (p : Project) (directory : String) : Except Error Compiler.Config := do
  match p.givenEntry? with
  | none => throw (.missingField "entry" entryHint)
  | some entry =>
    let rules ← p.rules.mapM Rule.toRule
    let plugins ← p.plugins.mapM findPlugin
    return {
      entry
      output := p.output
      rules
      extensions := p.extensions
      maxModules? := p.maxModules?
      workingDirectory? := some directory
      plugins }

end ModuleBundler.Project
