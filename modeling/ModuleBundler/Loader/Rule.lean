import ModuleBundler.Path
import ModuleBundler.Regex.Reader
import ModuleBundler.Text.Literal

/-!
# Loaders and the rules that choose them

A loader turns a text into another one or fails. A rule sends the files that pass its test through
one loader, or through a chain whose last loader runs first. A pipeline applies the rules whose test
the path passes, in their order, and stops at the first failure.
-/

namespace ModuleBundler

structure Loader where
  name : String
  run : String → Except String String

namespace Loader

/-- The loader that failed and what it says. -/
structure Failure where
  loader : String
  reason : String
  deriving DecidableEq

def Failure.message (f : Failure) : String := "loader '" ++ f.loader ++ "' failed: " ++ f.reason

def apply (l : Loader) (text : String) : Except Failure String :=
  match l.run text with
  | .ok text => .ok text
  | .error reason => .error ⟨l.name, reason⟩

/-- Runs loaders one after another, up to the first failure. -/
def applyAll (ls : List Loader) (text : String) : Except Failure String :=
  ls.foldlM (fun text l => l.apply text) text

def describe (l : Loader) : String := Text.application "Loader" [Text.literal l.name]

/-- What a rule does with a text. -/
inductive Use where
  | single (l : Loader)
  | chain (ls : List Loader)

namespace Use

/-- The loaders in the order in which they run. -/
def loaders : Use → List Loader
  | .single l => [l]
  | .chain ls => ls.reverse

def apply : Use → String → Except Failure String
  | .single l, text => l.apply text
  | .chain ls, text => applyAll ls.reverse text

def describe : Use → String
  | .single l => Text.application "Single" [l.describe]
  | .chain ls => Text.application "Chain" [Text.bracketed (ls.map Loader.describe)]

end Use

/-- Which paths a rule is for. -/
inductive Test where
  | extension (ext : String)
  | pattern (text : String) (e : Regex.Expression)
  | predicate (accepts : String → Bool)

namespace Test

def passes : Test → String → Bool
  | .extension ext, path => Path.extension? path == some ext
  | .pattern _ e, path => e.matchesIn path
  | .predicate accepts, path => accepts path

def describe : Test → String
  | .extension ext => "*." ++ ext
  | .pattern text _ => "/" ++ text ++ "/"
  | .predicate _ => "<predicate>"

end Test

structure Rule where
  test : Test
  use : Use

def Rule.describe (r : Rule) : String :=
  Text.record "LoaderRule" [("test", Text.literal r.test.describe), ("use", r.use.describe)]

/-- Rules in the order in which they apply. -/
abbrev Pipeline := List Rule

namespace Pipeline

def apply (rules : Pipeline) (path text : String) : Except Failure String :=
  (rules.filter fun r => r.test.passes path).foldlM (fun text r => r.use.apply text) text

/-- The loaders that a file passes through, in the order in which they run. -/
def loadersFor (rules : Pipeline) (path : String) : List Loader :=
  (rules.filter fun r => r.test.passes path).flatMap fun r => r.use.loaders

end Pipeline

end Loader

end ModuleBundler
