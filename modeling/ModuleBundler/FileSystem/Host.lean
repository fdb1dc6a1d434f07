import ModuleBundler.Text.Utf8

/-!
# Hosts

A host answers the questions that bundling asks of the world: what a file holds, whether it is
there, where the work is done. Whatever answers in some monad will do.
-/

namespace ModuleBundler.FileSystem

open Text (Bytes)

inductive Operation where
  | read
  | write
  | createDirectory
  deriving DecidableEq

def Operation.verb : Operation → String
  | .read => "read"
  | .write => "write"
  | .createDirectory => "create directory"

inductive Error where
  | notFound (path : String)
  | failed (operation : Operation) (path reason : String)
  | noWorkingDirectory (reason : String)
  deriving DecidableEq

def Error.message : Error → String
  | .notFound path => "File not found: " ++ path
  | .failed operation path reason =>
    "Failed to " ++ operation.verb ++ " '" ++ path ++ "': " ++ reason
  | .noWorkingDirectory reason => "Cannot determine working directory: " ++ reason

structure Host (m : Type → Type) where
  read : String → m (Except Error Bytes)
  /-- Replaces what a file holds; its directory must be there. -/
  write : String → Bytes → m (Except Error Unit)
  /-- Creates a directory, with the ones above it if `all` holds. -/
  createDirectory (path : String) (all : Bool) : m (Except Error Unit)
  /-- Whether a path leads to a file, as opposed to a directory or nothing. -/
  isFile : String → m Bool
  workingDirectory : m (Except Error String)

/-- The same host in a larger monad. -/
def Host.lift {m n : Type → Type} [MonadLiftT m n] (h : Host m) : Host n where
  read path := liftM (h.read path)
  write path bytes := liftM (h.write path bytes)
  createDirectory path all := liftM (h.createDirectory path all)
  isFile path := liftM (h.isFile path)
  workingDirectory := liftM h.workingDirectory

end ModuleBundler.FileSystem
