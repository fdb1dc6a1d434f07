import ModuleBundler.FileSystem.Host
import ModuleBundler.Graph
import ModuleBundler.Loader.Rule
import ModuleBundler.Module.Transformer

/-!
# Building modules

A module is built from the file that its identity names: the file is read, passes through its
loaders and the transformer, and every path that the transformer gives is resolved to an identity.
-/

namespace ModuleBundler

open FileSystem (Host)

/-- Why a module, and with it a graph, cannot be built. -/
inductive BuildError where
  | fileNotFound (path : String)
  | rejected (path : String) (r : Rejection)
  | loaderFailed (path : String) (f : Loader.Failure)
  | notText (path : String)
  | unreadable (path : String) (e : FileSystem.Error)
  | tooManyModules (count limit : Nat)
  | invalidId (e : ModuleId.Error)
  | graph (e : Graph.Error)
  deriving DecidableEq

def BuildError.message : BuildError → String
  | .fileNotFound path => "File not found: " ++ path
  | .rejected path r => "Failed to transform '" ++ path ++ "': " ++ r.message
  | .loaderFailed path f =>
    "Loader '" ++ f.loader ++ "' failed on '" ++ path ++ "': " ++ f.reason
  | .notText path => "File '" ++ path ++ "' is not valid UTF-8"
  | .unreadable path e => "Failed to read '" ++ path ++ "': " ++ e.message
  | .tooManyModules count limit =>
    "Too many modules processed: " ++ toString count ++ " modules (max: " ++ toString limit ++
      " allowed)"
  | .invalidId e => "Invalid module id: " ++ e.message
  | .graph e => e.message

structure Builder (m : Type → Type) where
  host : Host m
  loaders : Loader.Pipeline := []
  transformer : Transformer := .imports
  /-- What is tried at the end of a path that leads to no file, each with its dot. -/
  extensions : List String := []

namespace Builder

/-- An extension with its dot. -/
def dotted (extension : String) : String :=
  if extension.toList.head? == some '.' then extension else "." ++ extension

variable {m : Type → Type} [Monad m]

/-- The first of some paths that leads to a file. -/
def firstFile (h : Host m) (otherwise : String) : List String → m String
  | [] => return otherwise
  | path :: paths => do
    if ← h.isFile path then return path else firstFile h otherwise paths

/-- The path of an identity, then the same with each extension at its end. -/
def candidates (b : Builder m) (exact : ModuleId) : List String :=
  exact.path :: b.extensions.map fun e => exact.path ++ e

/-- The identity that a path leads to from a module. Without extensions nothing is probed. -/
def resolve (b : Builder m) (importer : ModuleId) (path : String) :
    m (Except ModuleId.Error ModuleId) := do
  match importer.joinSpecifier path with
  | .error e => return .error e
  | .ok exact =>
    if b.extensions.isEmpty then return .ok exact
    else return .ok (.ofRooted (← firstFile b.host exact.path (b.candidates exact)))

/-- Resolves specifiers in order, up to the first that leads nowhere. -/
def resolveAll (b : Builder m) (importer : ModuleId) :
    Dependencies → List (String × String) → m (Except ModuleId.Error Dependencies)
  | found, [] => return .ok found
  | found, (specifier, path) :: r => do
    match ← b.resolve importer path with
    | .error e => return .error e
    | .ok id => resolveAll b importer (found.insert specifier id) r

/-- What the bytes of a file amount to, before paths are resolved. -/
def compile (b : Builder m) (path : String) (bytes : Text.Bytes) :
    Except BuildError Lowering.Output := do
  let some text := Text.decode? bytes | throw (.notText path)
  let text ← (b.loaders.apply path text).mapError (.loaderFailed path)
  (b.transformer.transform text path).mapError (.rejected path)

def readError (path : String) : FileSystem.Error → BuildError
  | .notFound _ => .fileNotFound path
  | e => .unreadable path e

def build (b : Builder m) (id : ModuleId) : m (Except BuildError Module) := do
  match ← b.host.read id.path with
  | .error e => return .error (readError id.path e)
  | .ok bytes =>
    match b.compile id.path bytes with
    | .error e => return .error e
    | .ok output =>
      match ← b.resolveAll id .empty output.dependencies.entries with
      | .error e => return .error (.invalidId e)
      | .ok dependencies => return .ok ⟨id, dependencies, output.code⟩

end Builder

end ModuleBundler
