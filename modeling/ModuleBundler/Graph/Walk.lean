import ModuleBundler.Module.Builder

/-!
# Walking to all dependencies

A walk adds to a graph whatever an entry module depends on, directly or through others, nearest
first. Identities wait in a queue; one that was seen before is passed over, so that every module is
built once and circles end.
-/

namespace ModuleBundler.Graph

/-- Where a walk stands. -/
structure Walk where
  graph : Graph
  visited : List ModuleId
  queue : List ModuleId
  added : Nat

namespace Walk

/-- Whether one more module would go past the limit. -/
def checkLimit (limit : Option Nat) (g : Graph) : Except BuildError Unit :=
  match limit with
  | some limit =>
    if limit ≤ g.size then .error (.tooManyModules (g.size + 1) limit) else .ok ()
  | none => .ok ()

/-- A walk that has not taken a step; the identities in the graph count as visited. -/
def ofGraph (g : Graph) : Walk := ⟨g, g.ids, [], 0⟩

/-- Adds a module, after which its dependencies wait. -/
def add (limit : Option Nat) (w : Walk) (m : Module) : Except BuildError Walk := do
  checkLimit limit w.graph
  let graph ← (w.graph.insert m).mapError .graph
  return ⟨graph, m.id :: w.visited, w.queue, w.added + 1⟩

/-- Lets dependencies wait. -/
def enqueue (w : Walk) (ids : List ModuleId) : Walk := { w with queue := w.queue ++ ids }

/-- The walk from an entry, which is added unless the graph holds it. -/
def start (limit : Option Nat) (g : Graph) (entry : Module) : Except BuildError Walk :=
  let w := (ofGraph g).enqueue entry.dependencyIds
  if g.contains entry.id then .ok w else w.add limit entry

/-- The next identity to build, and the queue after it. -/
def next? (w : Walk) : Option (ModuleId × Walk) :=
  match w.queue.dropWhile fun id => w.visited.contains id with
  | [] => none
  | id :: queue => some (id, { w with queue })

variable {m : Type → Type} [Monad m]

/-- How a walk ended, with the graph at that time. -/
structure Outcome where
  graph : Graph
  result : Except BuildError Nat

/-- Builds the next module and adds it; a walk that is over stays as it is. -/
def step (build : ModuleId → m (Except BuildError Module)) (limit : Option Nat) (w : Walk)
    (id : ModuleId) : m (Except BuildError Walk) := do
  match checkLimit limit w.graph with
  | .error e => return .error e
  | .ok _ =>
    match ← build id with
    | .error e => return .error e
    | .ok built =>
      let fresh := built.dependencyIds.filter fun d => !(id :: w.visited).contains d
      return (w.enqueue fresh).add limit built

/-- Takes steps until nothing waits. `none` means that more than `fuel` modules had to be built. -/
def run (build : ModuleId → m (Except BuildError Module)) (limit : Option Nat) :
    Nat → Walk → m (Option Outcome)
  | fuel, w =>
    match w.next? with
    | none => return some ⟨w.graph, .ok w.added⟩
    | some (id, w) =>
      match fuel with
      | 0 => return none
      | fuel + 1 => do
        match ← step build limit w id with
        | .error e => return some ⟨w.graph, .error e⟩
        | .ok w => run build limit fuel w

end Walk

variable {m : Type → Type} [Monad m]

/-- Adds everything that an entry depends on to a graph. What was added stays when the walk fails.
At most `fuel` modules are built. -/
def expandInto (b : Builder m) (limit : Option Nat) (fuel : Nat) (entry : Module) (g : Graph) :
    m (Option Walk.Outcome) :=
  match Walk.start limit g entry with
  | .error e => return some ⟨g, .error e⟩
  | .ok w => Walk.run b.build limit fuel w

/-- The graph of everything that an entry depends on. -/
def expand (b : Builder m) (limit : Option Nat) (fuel : Nat) (entry : Module) :
    m (Option (Except BuildError Graph)) := do
  return (← expandInto b limit fuel entry .empty).map fun o => o.result.map fun _ => o.graph

end ModuleBundler.Graph
