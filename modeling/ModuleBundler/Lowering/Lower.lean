import ModuleBundler.OrderedMap
import ModuleBundler.Path
import ModuleBundler.Lowering.Emission
import ModuleBundler.Lowering.Splice
import ModuleBundler.Script.Program

/-!
# From imports and exports to `require`

`lower` replaces the import and export syntax of a script by calls of `require` and assignments
to `exports`, and lists the modules that the script asks for in the order in which it mentions
them. Everything else keeps its text.
-/

namespace ModuleBundler.Lowering

open Script

/-- A module that the script asks for at an offset. -/
structure Request where
  offset : Nat
  specifier : String
  deriving DecidableEq

/-- What one part of a script contributes. -/
structure Contribution where
  edits : List Edit := []
  requests : List Request := []
  /-- Assigned before the script's own code. -/
  hoisted : List Assignment := []
  /-- Assigned after the script's own code. -/
  trailing : List Assignment := []
  usesInterop : Bool := false
  isModule : Bool := false
  /-- How many temporary variables it takes. -/
  temporaries : Nat := 0
  deriving DecidableEq

namespace Contribution

def append (a b : Contribution) : Contribution where
  edits := a.edits ++ b.edits
  requests := a.requests ++ b.requests
  hoisted := a.hoisted ++ b.hoisted
  trailing := a.trailing ++ b.trailing
  usesInterop := a.usesInterop || b.usesInterop
  isModule := a.isModule || b.isModule
  temporaries := a.temporaries + b.temporaries

instance : Append Contribution := ⟨append⟩

end Contribution

/-! ## Calls -/

mutual

/-- Calls of `require` with one string, and dynamic imports of a string, wherever they stand. The
options of such an import are dropped with it. -/
def callsOf : Node → Contribution
  | .mk shape span parts =>
    match shape, parts with
    | .importCall, .mk (.string specifier) _ _ :: _ =>
      { edits := [⟨span.start, span.stop, dynamicImport specifier⟩]
        requests := [⟨span.start, specifier⟩] }
    | .call, [.mk (.identifier callee) _ _, .mk (.string specifier) _ _] =>
      if callee = "require" then { requests := [⟨span.start, specifier⟩] } else {}
    | _, _ => callsOfAll parts

def callsOfAll : List Node → Contribution
  | [] => {}
  | n :: r => callsOf n ++ callsOfAll r

end

/-! ## Imports and exports -/

/-- The statements that bind what an import names. Its module is evaluated once. -/
def importStatements (clause : ImportClause) (specifier : String) (temporary : String) :
    List ImportStatement :=
  let holder? := clause.namespaceName? <|>
    if clause.defaultName?.isSome && !clause.named.isEmpty then some temporary else none
  let source : Source := match holder? with
    | some name => .held name
    | none => .required specifier
  let whole := holder?.toList.map fun name => .whole name (.required specifier)
  let default := clause.defaultName?.toList.map fun name => .defaultExport name source
  let fields := if clause.named.isEmpty then [] else [.fields clause.named source]
  match whole ++ default ++ fields with
  | [] => [.evaluate specifier]
  | statements => statements

def needsTemporary (clause : ImportClause) : Bool :=
  clause.namespaceName?.isNone && clause.defaultName?.isSome && !clause.named.isEmpty

/-- What becomes of an item; `used` temporaries are taken already. -/
def contributionOf (used : Nat) : Item → Contribution
  | .statement _ => {}
  | .importBindings span clause specifier =>
    let statements := importStatements clause specifier (temporaryName used)
    { edits := [⟨span.start, span.stop, " ".intercalate (statements.map ImportStatement.render)⟩]
      requests := [⟨span.start, specifier⟩]
      usesInterop := clause.defaultName?.isSome
      temporaries := if needsTemporary clause then 1 else 0 }
  | .exportAll span exported? specifier =>
    let statement : ReexportStatement := match exported? with
      | some exported => .whole exported.name specifier
      | none => .all specifier
    { edits := [⟨span.start, span.stop, statement.render⟩]
      requests := [⟨span.start, specifier⟩]
      isModule := true }
  | .exportFrom span names specifier =>
    let statement : ReexportStatement :=
      .named (names.map fun n => (n.exported.name, n.source.name)) specifier
    { edits := [⟨span.start, span.stop, statement.render⟩]
      requests := [⟨span.start, specifier⟩]
      isModule := true }
  | .exportList span names =>
    { edits := [⟨span.start, span.stop, ""⟩]
      trailing := names.map fun n => ⟨n.exported.name, n.source.name⟩
      isModule := true }
  | .exportDeclaration span declaration =>
    let assignments := (Item.declaredNames declaration).map fun n => ⟨n.name, n.name⟩
    let strip : Contribution :=
      { edits := [⟨span.start, declaration.start, ""⟩], isModule := true }
    match declaration.shape with
    | .functionDefinition _ => { strip with hoisted := assignments }
    | _ => { strip with trailing := assignments }
  | .exportDefault span _ declaration =>
    let strip (text : String) : Contribution :=
      { edits := [⟨span.start, declaration.start, text⟩], isModule := true }
    match declaration.shape with
    | .functionDefinition (some name) => { strip "" with hoisted := [⟨"default", name.name⟩] }
    | .classDefinition (some name) => { strip "" with trailing := [⟨"default", name.name⟩] }
    | .functionDefinition none | .classDefinition none =>
      -- an assignment, unlike a declaration, needs a terminator
      strip "exports.default = " ++ { edits := [⟨span.stop, span.stop, ";"⟩] }
    | _ => strip "exports.default = "

def contributionOfAll (used : Nat) : List Item → Contribution
  | [] => {}
  | item :: r =>
    let c := contributionOf used item
    c ++ contributionOfAll (used + c.temporaries) r

def contributionOfProgram (program : Program) : Contribution :=
  contributionOfAll 0 program.items ++ callsOfAll (program.items.filterMap Item.code?)

/-! ## The result -/

structure Output where
  /-- Specifiers with the paths that they lead to, in order of first mention. -/
  dependencies : OrderedMap String String
  code : String

/-- The requests of a script, each specifier once. -/
def specifiersOf (requests : List Request) : List String :=
  ((requests.mergeSort fun a b => a.offset ≤ b.offset).map Request.specifier).eraseDups

/-- Code in front of the script's own. -/
def header (c : Contribution) : String :=
  (if c.isModule then moduleMarker else "") ++ (if c.usesInterop then interopHelper else "") ++
    String.join (c.hoisted.map Assignment.renderLine)

def footer (c : Contribution) (code : String) : String :=
  if c.trailing.isEmpty then ""
  else
    (if code.toList.getLast? == some '\n' then "" else "\n") ++
      String.join (c.trailing.map Assignment.renderLine)

def render (source : List Char) (c : Contribution) : String :=
  let code := header c ++ String.ofList (splice source c.edits)
  code ++ footer c code

/-- The directory that relative specifiers in the file at `path` start from. -/
def importerDirectory (path : String) : String :=
  (Path.parent? path).getD "/"

/-- Lowers a script; an error is the line of the first diagnostic. -/
def lower (source path : String) : Except Nat Output := do
  let program ← Program.parse source
  let c := contributionOfProgram program
  return {
    dependencies := OrderedMap.ofList <| (specifiersOf c.requests).map fun s =>
      (s, Path.join (importerDirectory path) s)
    code := render source.toList c }

end ModuleBundler.Lowering
