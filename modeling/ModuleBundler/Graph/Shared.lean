import ModuleBundler.Graph

/-!
# Shared graphs

A handle leads to a graph that several parties may extend. A clone of a handle leads to the same
graph, and what is asked through a handle is answered before anything else is asked. Nothing that
can be asked takes a module away or puts another one in its place.
-/

namespace ModuleBundler.Graph

/-- What a graph is reached by: the cell that holds it. -/
structure Handle where
  cell : Nat
  deriving DecidableEq

/-- The graphs that handles lead to; the cells from `next` on are free. -/
structure Heap where
  graph : Nat → Graph
  next : Nat

namespace Heap

def empty : Heap := ⟨fun _ => .empty, 0⟩

/-- The graph that a handle leads to. -/
def behind (s : Heap) (h : Handle) : Graph := s.graph h.cell

def put (s : Heap) (h : Handle) (g : Graph) : Heap :=
  { s with graph := fun cell => if cell = h.cell then g else s.graph cell }

end Heap

namespace Handle

/-- A handle on a graph that was not shared so far. -/
def of (g : Graph) : StateM Heap Handle := fun s =>
  (⟨s.next⟩, { s.put ⟨s.next⟩ g with next := s.next + 1 })

/-- A handle on a new graph. -/
def new : StateM Heap Handle := of .empty

/-- Another handle on the same graph. -/
def clone (h : Handle) : Handle := ⟨h.cell⟩

def insert (h : Handle) (m : Module) : StateM Heap (Except Error Unit) := fun s =>
  match (s.behind h).insert m with
  | .error e => (.error e, s)
  | .ok g => (.ok (), s.put h g)

/-- The graph as it is now. -/
def snapshot (h : Handle) : StateM Heap Graph := fun s => (s.behind h, s)

def get? (h : Handle) (id : ModuleId) : StateM Heap (Option Module) :=
  return (← h.snapshot).get? id

def contains (h : Handle) (id : ModuleId) : StateM Heap Bool := return (← h.snapshot).contains id

def size (h : Handle) : StateM Heap Nat := return (← h.snapshot).size

def isEmpty (h : Handle) : StateM Heap Bool := return (← h.snapshot).isEmpty

def ids (h : Handle) : StateM Heap (List ModuleId) := return (← h.snapshot).ids

def validate (h : Handle) (entry : ModuleId) : StateM Heap (Except Error Unit) :=
  return (← h.snapshot).validate entry

end Handle

end ModuleBundler.Graph
