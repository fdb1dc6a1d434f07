/-!
# Errors of projects

What is wrong with a project, with a hint at what to change.
-/

namespace ModuleBundler.Project

inductive Error where
  /-- The file that was asked for is not there. -/
  | notFound (path : String)
  | invalid (reason hint : String)
  | missingField (field hint : String)
  | invalidPattern (pattern reason : String)
  | unknownLoader (name : String) (known : List String)
  | unknownPlugin (name : String) (known : List String)
  deriving DecidableEq

/-- A text with a hint below it. -/
def hinted (text hint : String) : String := text ++ "\n\nHint: " ++ hint

def Error.message : Error → String
  | .notFound path =>
    hinted ("Config file not found: " ++ path)
      "Create bindle.config.json or drop the --config flag"
  | .invalid reason hint => hinted ("Invalid configuration: " ++ reason) hint
  | .missingField name hint => hinted ("Missing required field: " ++ name) hint
  | .invalidPattern pattern reason =>
    hinted ("Invalid rule pattern '" ++ pattern ++ "': " ++ reason)
      "\x60test\x60 is a regular expression matched against the module path"
  | .unknownLoader name known =>
    hinted ("Unknown loader '" ++ name ++ "'") ("Available loaders: " ++ ", ".intercalate known)
  | .unknownPlugin name known =>
    hinted ("Unknown plugin '" ++ name ++ "'") ("Available plugins: " ++ ", ".intercalate known)

end ModuleBundler.Project
