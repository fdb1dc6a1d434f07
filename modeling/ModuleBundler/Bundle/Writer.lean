import ModuleBundler.Bundle.Error

/-!
# Writing the artifact

The artifact goes into its directory and nowhere else. The directory is created first, together
with the ones above it.
-/

namespace ModuleBundler.Bundle

open FileSystem (Host)

/-- The path of a file that lies directly in a folded directory. -/
def outputPath (directory filename : String) : Except Error String :=
  if filename.isEmpty then .error (.invalidOutputPath "empty filename")
  else
    let target := Path.clean (Path.join directory filename)
    if Path.parent? target = some directory then .ok target
    else .error (.invalidOutputPath
      ("'" ++ filename ++ "' escapes output directory '" ++ directory ++ "'"))

/-- Writes a bundle and gives the path of its file. -/
def writeArtifact {m : Type → Type} [Monad m] (h : Host m) (directory filename code : String) :
    m (Except Error String) := do
  let directory := Path.clean directory
  match outputPath directory filename with
  | .error e => return .error e
  | .ok target =>
    match ← h.createDirectory directory true with
    | .error e =>
      return .error (.writeFailure
        ("Failed to create output directory '" ++ directory ++ "': " ++ e.message))
    | .ok _ =>
      match ← h.write target (Text.encode code) with
      | .error e =>
        return .error (.writeFailure ("Failed to write '" ++ target ++ "': " ++ e.message))
      | .ok _ => return .ok target

end ModuleBundler.Bundle
