import ModuleBundler.Json.Decode
import ModuleBundler.Project

/-!
# Reading projects from JSON

Every part of a project is a record that allows no field but its own.
-/

namespace ModuleBundler.Project

open Json

/-- A field of a record that is set to what is read. -/
def field {σ α : Type} (name : String) (decoder : Decoder α) (set : α → σ → σ) :
    Decoder.Field σ :=
  ⟨name, fun d => set <$> decoder d, false⟩

def requiredField {σ α : Type} (name : String) (decoder : Decoder α) (set : α → σ → σ) :
    Decoder.Field σ :=
  ⟨name, fun d => set <$> decoder d, true⟩

/-- A name or a list of names. Faults of the text come first. -/
def LoaderNames.decoder : Decoder LoaderNames := fun d => do
  match d.skip with
  | .error f => throw (.fault f)
  | .ok _ =>
    match Decoder.string d, Decoder.list Decoder.string d with
    | .ok name, _ => return .one name
    | _, .ok names => return .chain names
    | _, _ => throw (.noVariant "LoaderNames")

def Rule.decoder (l : Decoder.Leniency) : Decoder Rule :=
  Decoder.record "RuleConfig"
    [requiredField "test" Decoder.string fun test r => { r with test },
      requiredField "use" LoaderNames.decoder fun use r => { r with use }]
    l ⟨"", .chain []⟩

def outputDecoder (l : Decoder.Leniency) : Decoder Compiler.Output :=
  Decoder.record "OutputSection"
    [field "directory" (Decoder.text "path string") fun directory o => { o with directory },
      field "filename" Decoder.string fun filename o => { o with filename },
      field "banner" (Decoder.optional Decoder.string) fun banner? o => { o with banner? }]
    l {}

/-- Rules and plugins. -/
def moduleDecoder (l : Decoder.Leniency) : Decoder (List Rule × List String) :=
  Decoder.record "ModuleSection"
    [field "rules" (Decoder.list (Rule.decoder l)) fun rules s => (rules, s.2),
      field "plugins" (Decoder.list Decoder.string) fun plugins s => (s.1, plugins)]
    l ([], [])

def extensionsDecoder (l : Decoder.Leniency) : Decoder (List String) :=
  Decoder.record "ResolveSection"
    [field "extensions" (Decoder.list Decoder.string) fun extensions _ => extensions]
    l []

def decoder (l : Decoder.Leniency) : Decoder Project :=
  Decoder.record "BindleConfig"
    [field "entry" (Decoder.optional Decoder.string) fun entry? p => { p with entry? },
      field "output" (outputDecoder l) fun output p => { p with output },
      field "module" (moduleDecoder l) fun s p => { p with rules := s.1, plugins := s.2 },
      field "resolve" (extensionsDecoder l) fun extensions p => { p with extensions },
      field "maxModules" (Decoder.optional Decoder.natural) fun maxModules? p =>
        { p with maxModules? }]
    l {}

/-- Reads a project from a text. -/
def parse (text : String) : Except Mismatch Project := Decoder.run (decoder .none) text

end ModuleBundler.Project
