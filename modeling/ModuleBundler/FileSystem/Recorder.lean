import ModuleBundler.FileSystem.Host

/-!
# Recording hosts

A recording host keeps what was asked of it, in order, and can be told to refuse.
-/

namespace ModuleBundler.FileSystem

open Text (Bytes)

/-- What was asked of a host. -/
inductive Request where
  | read (path : String)
  | write (path : String)
  | createDirectory (path : String) (all : Bool)
  | isFile (path : String) (answer : Bool)
  | workingDirectory
  deriving DecidableEq

structure Record where
  requests : List Request := []
  /-- The writes that succeeded. -/
  writes : List (String × Bytes) := []

namespace Record

def ask (r : Record) (q : Request) : Record := { r with requests := r.requests ++ [q] }

/-- Runs an action of the recorded host after noting it, unless it is refused. -/
def guarded {m : Type → Type} [Monad m] {α : Type} (refuse : Request → Option String)
    (q : Request) (error : String → Error) (action : m (Except Error α)) :
    StateT Record m (Except Error α) := do
  modify (·.ask q)
  match refuse q with
  | some reason => return .error (error reason)
  | none => action

/-- Records the requests to `h`; those that `refuse` gives a reason for fail. -/
def host {m : Type → Type} [Monad m] (h : Host m) (refuse : Request → Option String) :
    Host (StateT Record m) where
  read path := guarded refuse (.read path) (.failed .read path) (h.read path)
  write path bytes := do
    let result ← guarded refuse (.write path) (.failed .write path) (h.write path bytes)
    if result matches .ok _ then modify fun r => { r with writes := r.writes ++ [(path, bytes)] }
    return result
  createDirectory path all :=
    guarded refuse (.createDirectory path all) (.failed .createDirectory path)
      (h.createDirectory path all)
  isFile path := do
    let answer ← h.isFile path
    modify (·.ask (.isFile path answer))
    return answer
  workingDirectory :=
    guarded refuse .workingDirectory .noWorkingDirectory h.workingDirectory

end Record

end ModuleBundler.FileSystem
