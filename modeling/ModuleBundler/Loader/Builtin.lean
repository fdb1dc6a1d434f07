import ModuleBundler.Json.Document
import ModuleBundler.Loader.Rule
import ModuleBundler.Unicode.Blank

/-!
# Built-in loaders

`raw` and `json` make a module of a text that is not code, `uppercase` and `trim` change it.
-/

namespace ModuleBundler.Loader

/-- A module whose export is the value that `expression` denotes. -/
def exporting (expression : String) : String := "module.exports = " ++ expression ++ ";"

/-- Exports the text itself. -/
def raw : Loader := ⟨"raw", fun text => .ok (exporting (Json.quote text))⟩

/-- Exports the value of a JSON text. -/
def json : Loader := ⟨"json", fun text =>
  match Json.parse text with
  | .ok v => .ok (exporting v.compact)
  | .error f => .error (f.message text.toList)⟩

def uppercase : Loader := ⟨"uppercase", fun text => .ok (Unicode.upper text)⟩

def trim : Loader := ⟨"trim", fun text => .ok (Unicode.trim text)⟩

def builtins : List Loader := [raw, json, uppercase, trim]

def builtinNames : List String := builtins.map Loader.name

def builtin? (name : String) : Option Loader := builtins.find? (·.name == name)

end ModuleBundler.Loader
