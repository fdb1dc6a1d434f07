import ModuleBundler.Compilation

/-!
# Running modules in process

A table gives every module of a graph a unit, which is what its code does: it requires modules by
its own specifiers, and ends with the value that it exports or with an error. Loading follows the
rules of a bundle's loader, except that it stops when too many modules are nested.
-/

namespace ModuleBundler.Execution

inductive Error where
  | unknownModule (id : ModuleId)
  | unresolved (importer : ModuleId) (specifier : String)
  | tooDeep (id : ModuleId) (limit : Nat)
  | failed (id : ModuleId) (reason : String)
  deriving DecidableEq

def Error.message : Error → String
  | .unknownModule id => "Cannot find module id '" ++ id.path ++ "'"
  | .unresolved importer specifier =>
    "Cannot find module '" ++ specifier ++ "' from '" ++ importer.path ++ "'"
  | .tooDeep id limit =>
    "Module load depth exceeded " ++ toString limit ++ " while loading '" ++ id.path ++ "'"
  | .failed id reason => "Module '" ++ id.path ++ "' failed: " ++ reason

/-- What the code of a module does; `α` are the values that modules export. -/
inductive Behaviour (α : Type) where
  | done (exports : α)
  | fail (e : Error)
  | require (specifier : String) (next : Except Error α → Behaviour α)

/-- The behaviour of a module, given how often it has run before. -/
abbrev Unit (α : Type) := Nat → Behaviour α

/-- The modules that have begun to run, in that order. -/
abbrev Trace := List ModuleId

structure Entry (α : Type) where
  id : ModuleId
  dependencies : Dependencies
  unit : Unit α

structure Table (α : Type) where
  entries : List (Entry α)
  /-- How many modules may be nested. -/
  limit : Nat

def defaultLimit : Nat := 256

namespace Table

variable {α : Type}

/-- Compiles the modules of a graph in order, up to the first failure. -/
def ofGraph (g : Graph) (compile : Module → Except Error (Unit α)) : Except Error (Table α) := do
  let entries ← g.modules.mapM fun m => do
    return { id := m.id, dependencies := m.dependencies, unit := ← compile m }
  return ⟨entries, defaultLimit⟩

def size (t : Table α) : Nat := t.entries.length

def isEmpty (t : Table α) : Bool := t.entries.isEmpty

def get? (t : Table α) (id : ModuleId) : Option (Entry α) := t.entries.find? (·.id == id)

/-- Runs a behaviour whose specifiers `load` serves. -/
def runBehaviour (load : ModuleId → Trace → Except Error α × Trace) (e : Entry α) :
    Behaviour α → Trace → Except Error α × Trace
  | .done exports, t => (.ok exports, t)
  | .fail error, t => (.error error, t)
  | .require specifier next, t =>
    match e.dependencies.get? specifier with
    | none => runBehaviour load e (next (.error (.unresolved e.id specifier))) t
    | some target =>
      let (result, t) := load target t
      runBehaviour load e (next result) t

/-- Loads a module where `room` more may be nested. -/
def loadWithin (table : Table α) : Nat → ModuleId → Trace → Except Error α × Trace
  | 0, id, t => (.error (.tooDeep id table.limit), t)
  | room + 1, id, t =>
    match table.get? id with
    | none => (.error (.unknownModule id), t)
    | some e => runBehaviour (loadWithin table room) e (e.unit (t.count id)) (t ++ [id])

/-- Runs a module and what it requires; nothing that ran before is reused. -/
def load (table : Table α) (id : ModuleId) (t : Trace) : Except Error α × Trace :=
  loadWithin table table.limit id t

def describe (table : Table α) : String :=
  Text.record "ModuleTable"
    [("modules", Text.bracketed (table.entries.map fun e => e.id.describe)),
      ("recursion_limit", toString table.limit)]

end Table

end ModuleBundler.Execution
