import ModuleBundler.Lowering.Lower

/-!
# Transformers

A transformer makes executable code of a text and lists what the text refers to. Paths that it
gives may be relative to the directory of the file.
-/

namespace ModuleBundler

/-- Why and at which line a text was rejected. -/
structure Rejection where
  line : Nat
  reason : String
  deriving DecidableEq

def Rejection.message (r : Rejection) : String :=
  r.reason ++ " (line " ++ toString r.line ++ ")"

/-- Transforms the text of the file at a path. -/
structure Transformer where
  transform (text path : String) : Except Rejection Lowering.Output

namespace Transformer

/-- Lowers the imports and exports of scripts to calls and assignments. -/
def imports : Transformer where
  transform text path := (Lowering.lower text path).mapError fun line => ⟨line, "syntax error"⟩

end Transformer

end ModuleBundler
