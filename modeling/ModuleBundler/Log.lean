/-!
# How much is logged

Levels from silence to everything, and which of them the command line asks for.
-/

namespace ModuleBundler.Log

inductive Level where
  | silent
  | error
  | warn
  /-- What a run comes to. -/
  | info
  /-- Every phase and module. -/
  | debug
  | trace
  deriving DecidableEq

namespace Level

/-- Levels are ordered by how much they let through. -/
def rank : Level → Nat
  | .silent => 0
  | .error => 1
  | .warn => 2
  | .info => 3
  | .debug => 4
  | .trace => 5

instance : LE Level := ⟨fun a b => a.rank ≤ b.rank⟩

instance (a b : Level) : Decidable (a ≤ b) := inferInstanceAs (Decidable (a.rank ≤ b.rank))

/-- Asking for more wins over asking for less. -/
def ofFlags (verbose quiet : Bool) : Level :=
  if verbose then .debug else if quiet then .error else .info

/-- The level's word in a filter. -/
def word : Level → String
  | .silent => "off"
  | .error => "error"
  | .warn => "warn"
  | .info => "info"
  | .debug => "debug"
  | .trace => "trace"

/-- The parts of the program that log under their own names. -/
def sources : List String := ["bindle_graph", "bindle_bundler", "bindle_cli"]

/-- The filter that sets this level for every part. -/
def directive (l : Level) : String :=
  ",".intercalate (sources.map fun s => s ++ "=" ++ l.word)

end Level

/-- What the environment and the terminal say about colours. A variable that is set counts,
whatever it is set to. -/
structure ColourWish where
  refused : Bool
  forced : Bool
  supported : Bool

def ColourWish.granted (w : ColourWish) : Bool := !w.refused && (w.forced || w.supported)

end ModuleBundler.Log
