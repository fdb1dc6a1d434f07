import ModuleBundler.Json.Decode
import ModuleBundler.Module

/-!
# Reading modules from JSON

Paths are folded on reading, so that what is read is an identity and not a spelling of one.
-/

namespace ModuleBundler

open Json

def ModuleId.decoder : Decoder ModuleId := fun d => do
  match ModuleId.ofPath (← Decoder.string d) with
  | .ok id => return id
  | .error e => throw (.other e.message)

/-- The members of an object as specifiers and targets. -/
def Dependencies.decodeMembers : Dependencies → List (String × Document) →
    Except Mismatch Dependencies
  | found, [] => .ok found
  | found, (specifier, d) :: r => do
    decodeMembers (found.insert specifier (← ModuleId.decoder d)) r

def Dependencies.decoder : Decoder Dependencies
  | .object ms ending _ => do
    let found ← decodeMembers .empty ms
    Decoder.finish ending
    return found
  | d => .error (d.mistyped "a map")

def Module.decoder : Decoder Module :=
  Decoder.record "Module"
    [⟨"id", fun d => do
        let id ← ModuleId.decoder d
        return fun m => { m with id }, true⟩,
      ⟨"dependencies", fun d => do
        let dependencies ← Dependencies.decoder d
        return fun m => { m with dependencies }, true⟩,
      ⟨"code", fun d => do
        let code ← Decoder.string d
        return fun m => { m with code }, true⟩]
    ⟨true, false⟩ ⟨.root, .empty, ""⟩

end ModuleBundler
