/-!
# Hooks

A hook is a named point of a run at which listeners are called. Its kind decides how: one after
another without waiting, all together, or one after another waiting for each.
-/

namespace ModuleBundler.Hook

inductive Kind where
  | sync
  | asyncParallel
  | asyncSeries
  deriving DecidableEq

namespace Kind

def name : Kind → String
  | .sync => "sync"
  | .asyncParallel => "async-parallel"
  | .asyncSeries => "async-series"

def isAsync : Kind → Bool
  | .sync => false
  | _ => true

end Kind

/-- What went wrong, and what lies behind it, outermost first. -/
structure Cause where
  message : String
  deeper : List String := []
  deriving DecidableEq

inductive Error where
  | unknown (hook : String)
  | kindConflict (hook : String) (existing requested : Kind)
  /-- `waiting` tells whether the hook was to be invoked asynchronously. -/
  | kindMismatch (hook : String) (kind : Kind) (waiting : Bool)
  | asyncListener (hook listener : String)
  | listener (hook listener : String) (cause : Cause)
  deriving DecidableEq

namespace Error

def message : Error → String
  | .unknown hook => "Unknown hook '" ++ hook ++ "'"
  | .kindConflict hook existing requested =>
    "Hook '" ++ hook ++ "' is already declared as " ++ existing.name ++
      ", cannot redeclare as " ++ requested.name
  | .kindMismatch hook kind waiting =>
    "Hook '" ++ hook ++ "' is " ++ kind.name ++ " and cannot be invoked " ++
      (if waiting then "asynchronously" else "synchronously")
  | .asyncListener hook name =>
    "Listener '" ++ name ++ "' is async and cannot be tapped on sync hook '" ++ hook ++ "'"
  | .listener hook name cause =>
    "Listener '" ++ name ++ "' on hook '" ++ hook ++ "' failed: " ++ cause.message

/-- What lies behind an error, outermost first. -/
def causes : Error → List String
  | .listener _ _ cause => cause.message :: cause.deeper
  | _ => []

def toCause (e : Error) : Cause := ⟨e.message, e.causes⟩

end Error

/-- Called once the entry module is in the graph. -/
def compilation : String := "compilation"

/-- Called once the graph is complete. -/
def make : String := "make"

/-- Called once the artifact is written. -/
def emit : String := "emit"

/-- Called once the listeners of `emit` are through. -/
def afterEmit : String := "after_emit"

/-- The hooks that every run has. -/
def builtins : List (String × Kind) :=
  [(compilation, .sync), (make, .asyncParallel), (emit, .asyncSeries), (afterEmit, .asyncSeries)]

/-- What can be seen of a hook. -/
structure Summary where
  name : String
  kind : Kind
  listeners : List String
  deriving DecidableEq

end ModuleBundler.Hook
