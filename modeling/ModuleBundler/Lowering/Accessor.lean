import ModuleBundler.Json.Quote
import ModuleBundler.Unicode.Alphanumeric

/-!
# Accessors

How generated code names a property: with a dot or bare where the name is made of letters, digits,
`_` and `$`, in quotes otherwise.
-/

namespace ModuleBundler.Lowering

def isPlainStart (c : Char) : Bool :=
  Unicode.isAlphabetic c || c == '_' || c == '$'

def isPlainPart (c : Char) : Bool :=
  Unicode.isAlphanumeric c || c == '_' || c == '$'

/-- Names that are written without quotes. -/
def isPlainName (name : String) : Bool :=
  match name.toList with
  | [] => false
  | c :: r => isPlainStart c && r.all isPlainPart

/-- `.name`, or the name in quotes and brackets. -/
def accessor (name : String) : String :=
  if isPlainName name then "." ++ name else "[" ++ Json.quote name ++ "]"

/-- The field that binds the property `imported` to the variable `bound`. -/
def bindingField (imported bound : String) : String :=
  if imported = bound then imported
  else if isPlainName imported then imported ++ ": " ++ bound
  else Json.quote imported ++ ": " ++ bound

end ModuleBundler.Lowering
