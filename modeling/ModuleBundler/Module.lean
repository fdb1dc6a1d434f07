import ModuleBundler.Json.Value
import ModuleBundler.ModuleId
import ModuleBundler.OrderedMap

/-!
# Modules

A module is a file's code together with the modules that its specifiers lead to.
-/

namespace ModuleBundler

/-- The modules that specifiers lead to, in the order of their mention. -/
abbrev Dependencies := OrderedMap String ModuleId

structure Module where
  id : ModuleId
  dependencies : Dependencies
  code : String
  deriving DecidableEq

namespace Module

/-- Where a specifier leads from this module. -/
def resolve (m : Module) (specifier : String) : Option ModuleId := m.dependencies.get? specifier

/-- The modules that this one depends on, one for each specifier. -/
def dependencyIds (m : Module) : List ModuleId := m.dependencies.values

end Module

def ModuleId.toJson (id : ModuleId) : Json.Value := .string id.path

namespace Dependencies

def toJson (d : Dependencies) : Json.Value :=
  .object (d.entries.map fun (specifier, target) => (specifier, target.toJson))

end Dependencies

namespace Module

/-- The members of a module in a graph, where its identity is the key. -/
def contentJson (m : Module) : List (String × Json.Value) :=
  [("dependencies", Dependencies.toJson m.dependencies), ("code", .string m.code)]

def toJson (m : Module) : Json.Value := .object (("id", m.id.toJson) :: m.contentJson)

end Module

end ModuleBundler
