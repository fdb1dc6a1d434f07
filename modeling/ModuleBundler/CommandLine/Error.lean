import ModuleBundler.Bundle.Error
import ModuleBundler.Project.Error

/-!
# Errors of commands

Why a command failed, and the report of it: one line for the failure and one for each cause behind
it.
-/

namespace ModuleBundler.CommandLine

inductive Error where
  | project (e : Project.Error)
  | bundle (e : Bundle.Error)
  | invalidArgument (reason : String)
  | fileNotFound (path : String)
  /-- The system objected, perhaps because something is not there. -/
  | system (isAbsent : Bool) (reason : String)
  | custom (text : String)
  deriving DecidableEq

namespace Error

def message : Error → String
  | .project e => e.message
  | .bundle e => e.message
  | .invalidArgument reason => "Invalid argument: " ++ reason
  | .fileNotFound path => "File not found: " ++ path
  | .system _ reason => "I/O error: " ++ reason
  | .custom text => text

/-- Names the path that is not there. -/
def atPath (path : String) : Error → Error
  | .system true _ => .fileNotFound path
  | e => e

/-- Adds a hint; only the text of the error is kept. -/
def withHint (hint : String) (e : Error) : Error := .custom (Project.hinted e.message hint)

/-- A failure after the artifact was written is introduced by saying so. -/
def preface : Bundle.Error → List String
  | .postProcess artifact _ =>
    ["Bundle was written to " ++ artifact ++ ", but a post-emit step failed"]
  | _ => []

/-- The failure and what lies behind it, outermost first. -/
def report : Error → List String
  | .bundle e => preface e ++ e.message :: e.causes
  | .project e => ["Configuration error: " ++ e.message]
  | e => [e.message]

end Error

end ModuleBundler.CommandLine
