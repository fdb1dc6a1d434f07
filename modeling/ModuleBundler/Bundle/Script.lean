import ModuleBundler.Graph

/-!
# The text of a bundle

A bundle is one script: a loader, then a table of the modules in the order of the graph, each with
its dependencies and its code as the body of a function. Nothing is cached: requiring a module runs
it.
-/

namespace ModuleBundler.Bundle

/-- The loader, up to the table of modules that it is applied to. -/
def loaderHead : String :=
  ";(function (modules, entry) \x7b\n" ++
  "  function load(id) \x7b\n" ++
  "    if (!Object.prototype.hasOwnProperty.call(modules, id)) \x7b\n" ++
  "      throw new Error(\"Cannot find module id '\" + id + \"'\");\n" ++
  "    \x7d\n" ++
  "    var record = modules[id];\n" ++
  "    function require(specifier) \x7b\n" ++
  "      if (!Object.prototype.hasOwnProperty.call(record.dependencies, specifier)) \x7b\n" ++
  "        throw new Error(\"Cannot find module '\" + specifier + \"' from '\" + id + \"'\");\n" ++
  "      \x7d\n" ++
  "      return load(record.dependencies[specifier]);\n" ++
  "    \x7d\n" ++
  "    var module = \x7b exports: \x7b\x7d \x7d;\n" ++
  "    record.factory.call(module.exports, require, module, module.exports);\n" ++
  "    return module.exports;\n" ++
  "  \x7d\n" ++
  "  return load(entry);\n" ++
  "\x7d)(\x7b\n"

/-- The table's record of a module. -/
def renderModule (m : Module) : String :=
  m.id.toJson.compact ++ ": \x7b\n  dependencies: " ++
    (Dependencies.toJson m.dependencies).compact ++ ",\n  factory: function (require, module, exports) \x7b\n" ++ m.code ++ "\n  \x7d\n\x7d,\n"

/-- The bundle of a graph, which runs `entry` when it is loaded. -/
def render (banner? : Option String) (g : Graph) (entry : ModuleId) : String :=
  (match banner? with
    | some banner => banner ++ "\n"
    | none => "") ++
  loaderHead ++ String.join (g.modules.map renderModule) ++
  "\x7d, " ++ entry.toJson.compact ++ ");\n"

end ModuleBundler.Bundle
