import ModuleBundler.Lowering.Accessor
import ModuleBundler.Script.Tree

/-!
# Generated statements

Imports and exports turn into a few kinds of statements over `require` and `exports`. They are
values first; `render` writes them.
-/

namespace ModuleBundler.Lowering

open Script (ImportBinding)

/-- Where an imported value comes from. -/
inductive Source where
  /-- Evaluates the module. -/
  | required (specifier : String)
  /-- A variable that already holds the module's value. -/
  | held (name : String)
  deriving DecidableEq

def requireCall (specifier : String) : String :=
  "require(" ++ Json.quote specifier ++ ")"

def Source.render : Source → String
  | .required specifier => requireCall specifier
  | .held name => name

/-- The helper that takes the default export of a module, or a plain value as a whole. -/
def interopName : String := "__bindle_interop"

def interopHelper : String :=
  "var " ++ interopName ++
    " = function (m) \x7b return m && m.__esModule ? m.default : m; \x7d;\n"

/-- Marks the exports of a module that was written with `export`. -/
def moduleMarker : String :=
  "Object.defineProperty(exports, \"__esModule\", \x7b value: true \x7d);\n"

/-- A function that copies all exports of a module but the default one. -/
def copyExports : String :=
  "(function (m) \x7b for (var k in m) if (k !== \"default\" && k !== \"__esModule\") " ++
    "exports[k] = m[k]; \x7d)"

def temporaryName (n : Nat) : String := "__bindle_import" ++ toString n

/-- What an import turns into. -/
inductive ImportStatement where
  | whole (name : String) (source : Source)
  | defaultExport (name : String) (source : Source)
  | fields (bindings : List ImportBinding) (source : Source)
  | evaluate (specifier : String)

namespace ImportStatement

def renderFields (bindings : List ImportBinding) : String :=
  "\x7b " ++ ", ".intercalate (bindings.map fun b => bindingField b.imported b.bound) ++ " \x7d"

def render : ImportStatement → String
  | .whole name source => "const " ++ name ++ " = " ++ source.render ++ ";"
  | .defaultExport name source =>
    "const " ++ name ++ " = " ++ interopName ++ "(" ++ source.render ++ ");"
  | .fields bindings source => "const " ++ renderFields bindings ++ " = " ++ source.render ++ ";"
  | .evaluate specifier => requireCall specifier ++ ";"

end ImportStatement

/-- `exports` gets the value of a variable under an exported name. -/
structure Assignment where
  exported : String
  value : String
  deriving DecidableEq

def Assignment.render (a : Assignment) : String :=
  "exports" ++ accessor a.exported ++ " = " ++ a.value ++ ";"

def Assignment.renderLine (a : Assignment) : String := a.render ++ "\n"

/-- What an export of another module's values turns into. -/
inductive ReexportStatement where
  | all (specifier : String)
  | whole (exported specifier : String)
  /-- Pairs of the exported name and the name in the other module. -/
  | named (names : List (String × String)) (specifier : String)

def ReexportStatement.render : ReexportStatement → String
  | .all specifier => copyExports ++ "(" ++ requireCall specifier ++ ");"
  | .whole exported specifier =>
    "exports" ++ accessor exported ++ " = " ++ requireCall specifier ++ ";"
  | .named names specifier =>
    "(function (m) \x7b " ++
      " ".intercalate (names.map fun (exported, source) =>
        "exports" ++ accessor exported ++ " = m" ++ accessor source ++ ";") ++
      " \x7d)(" ++ requireCall specifier ++ ");"

/-- A dynamic import of a known module. -/
def dynamicImport (specifier : String) : String :=
  "Promise.resolve().then(function () \x7b return " ++ requireCall specifier ++ "; \x7d)"

end ModuleBundler.Lowering
