import ModuleBundler.Module

/-!
# Module graphs

A graph holds modules in the order in which they were added, each under its own identity. It only
grows: nothing is replaced, removed or reordered.
-/

namespace ModuleBundler

structure Graph where
  modules : List Module
  nodup : (modules.map Module.id).Nodup

namespace Graph

inductive Error where
  | duplicate (id : ModuleId)
  | dangling (source : ModuleId) (specifier : String) (target : ModuleId)
  | missingEntry (id : ModuleId)
  deriving DecidableEq

def Error.message : Error → String
  | .duplicate id => "module '" ++ id.path ++ "' is already in the graph"
  | .dangling source specifier target =>
    "module '" ++ source.path ++ "' depends on '" ++ target.path ++ "' (via '" ++ specifier ++
      "') which is not in the graph"
  | .missingEntry id => "entry module '" ++ id.path ++ "' is not in the graph"

def empty : Graph := ⟨[], by simp⟩

instance : Inhabited Graph := ⟨empty⟩

def ids (g : Graph) : List ModuleId := g.modules.map Module.id

def size (g : Graph) : Nat := g.modules.length

def isEmpty (g : Graph) : Bool := g.modules.isEmpty

def contains (g : Graph) (id : ModuleId) : Bool := decide (id ∈ g.ids)

def get? (g : Graph) (id : ModuleId) : Option Module := g.modules.find? fun m => m.id == id

/-- Adds a module whose identity is new. -/
def push (g : Graph) (m : Module) (h : m.id ∉ g.ids) : Graph where
  modules := g.modules ++ [m]
  nodup := by
    rw [List.map_append]
    refine List.nodup_append.2 ⟨g.nodup, by simp, fun x hx y hy => ?_⟩
    rintro rfl
    simp only [List.map_cons, List.map_nil, List.mem_singleton] at hy
    exact h (hy ▸ hx)

def insert (g : Graph) (m : Module) : Except Error Graph :=
  if h : m.id ∈ g.ids then .error (.duplicate m.id) else .ok (g.push m h)

/-- The first dependency of a module that no module of the graph satisfies. -/
def danglingIn? (g : Graph) (m : Module) : Option Error :=
  (m.dependencies.entries.find? fun (_, target) => !g.contains target).map
    fun (specifier, target) => .dangling m.id specifier target

/-- Checks that the entry is there, and every module that one in the graph depends on. -/
def validate (g : Graph) (entry : ModuleId) : Except Error Unit :=
  if !g.contains entry then .error (.missingEntry entry)
  else match g.modules.findSome? g.danglingIn? with
    | some e => .error e
    | none => .ok ()

def toJson (g : Graph) : Json.Value :=
  .object (g.modules.map fun m => (m.id.path, .object m.contentJson))

@[simp] theorem ids_push (g : Graph) (m : Module) (h : m.id ∉ g.ids) :
    (g.push m h).ids = g.ids ++ [m.id] := by
  simp [push, ids]

end Graph

end ModuleBundler
