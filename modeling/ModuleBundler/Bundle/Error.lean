import ModuleBundler.Execution
import ModuleBundler.Module.Builder

/-!
# Errors of bundling

Why no bundle came about, or why one that was written is not complete work: each error with its
text, a code, a help text and what lies behind it.
-/

namespace ModuleBundler.Bundle

inductive Error where
  | build (e : BuildError)
  | graph (e : Graph.Error)
  | hook (e : Hook.Error)
  | pluginSetup (plugin : String) (cause : Hook.Cause)
  | invalidConfig (reason : String)
  | invalidOutputPath (reason : String)
  | writeFailure (reason : String)
  /-- The artifact was written, but a later listener failed. -/
  | postProcess (artifact : String) (e : Hook.Error)
  | execution (e : Execution.Error)
  | fileSystem (e : FileSystem.Error)
  deriving DecidableEq

namespace Error

def message : Error → String
  | .build e => e.message
  | .graph e => e.message
  | .hook e => e.message
  | .pluginSetup plugin cause =>
    "Plugin '" ++ plugin ++ "' failed during setup: " ++ cause.message
  | .invalidConfig reason => "Invalid configuration: " ++ reason
  | .invalidOutputPath reason => "Invalid output path: " ++ reason
  | .writeFailure reason => "Write failure: " ++ reason
  | .postProcess artifact e =>
    "Bundle written to '" ++ artifact ++ "', but post-processing failed: " ++ e.message
  | .execution e => e.message
  | .fileSystem e => "Runtime error: " ++ e.message

/-- Whether the artifact was written all the same. -/
def isArtifactWritten : Error → Bool
  | .postProcess .. => true
  | _ => false

def buildCode : BuildError → String
  | .fileNotFound _ => "FILE_NOT_FOUND"
  | .rejected .. => "TRANSFORM_ERROR"
  | .loaderFailed .. => "LOADER_FAILED"
  | .notText _ => "INVALID_UTF8"
  | .unreadable .. => "IO_ERROR"
  | .tooManyModules .. => "TOO_MANY_MODULES"
  | .invalidId _ => "INVALID_MODULE_ID"
  | .graph _ => "GRAPH_ERROR"

def graphCode : Graph.Error → String
  | .duplicate _ => "DUPLICATE_MODULE"
  | .dangling .. => "DANGLING_DEPENDENCY"
  | .missingEntry _ => "MISSING_ENTRY"

def hookCode : Hook.Error → String
  | .unknown _ => "UNKNOWN_HOOK"
  | .kindConflict .. => "HOOK_KIND_CONFLICT"
  | .kindMismatch .. => "HOOK_KIND_MISMATCH"
  | .asyncListener .. => "ASYNC_LISTENER_ON_SYNC_HOOK"
  | .listener .. => "HOOK_LISTENER_ERROR"

def code : Error → String
  | .build e => buildCode e
  | .graph e => graphCode e
  | .hook e => hookCode e
  | .pluginSetup .. => "PLUGIN_SETUP"
  | .invalidConfig _ => "INVALID_CONFIG"
  | .invalidOutputPath _ => "INVALID_OUTPUT_PATH"
  | .writeFailure _ => "WRITE_FAILURE"
  | .postProcess .. => "POST_PROCESS"
  | .execution _ => "EXEC_ERROR"
  | .fileSystem _ => "RUNTIME_ERROR"

def help? : Error → Option String
  | .build (.fileNotFound path) =>
    some ("Check that '" ++ path ++
      "' exists. Specifiers resolve relative to the importing file's directory.")
  | .build (.rejected _ r) =>
    some ("Fix the statement on line " ++ toString r.line ++
      " or add a loader rule that turns this file into JavaScript.")
  | .build (.loaderFailed _ f) =>
    some ("The '" ++ f.loader ++
      "' loader rejected this file. Check the file contents or the rule's test pattern.")
  | .build (.tooManyModules _ limit) =>
    some ("The graph grew past " ++ toString limit ++
      " modules. Raise the limit or check for runaway imports.")
  | .hook (.unknown name) =>
    some ("'" ++ name ++
      "' is not a declared hook. Built-in hooks: compilation, make, emit, after_emit.")
  | .pluginSetup plugin _ =>
    some ("Plugin '" ++ plugin ++
      "' could not register its listeners. Check its configuration.")
  | .invalidConfig reason =>
    some ("Check your configuration file for errors.\nError: " ++ reason)
  | .invalidOutputPath reason =>
    some ("The output path '" ++ reason ++
      "' is invalid. Use a plain file name for output.filename.")
  | .writeFailure reason =>
    some ("Failed to write file. Check disk space and permissions.\nError: " ++ reason)
  | .postProcess artifact _ =>
    some ("The bundle at '" ++ artifact ++
      "' is complete; only emit/after_emit listeners failed.")
  | _ => none

/-- What lies behind an error, outermost first. -/
def causes : Error → List String
  | .build (.rejected _ r) => [r.message]
  | .build (.unreadable _ e) => [e.message]
  | .build (.invalidId e) => [e.message]
  | .hook e => e.causes
  | .pluginSetup _ cause => cause.message :: cause.deeper
  | .postProcess _ e => e.message :: e.causes
  | .fileSystem e => [e.message]
  | _ => []

end Error

end ModuleBundler.Bundle
