import ModuleBundler.Hook.Registry

/-!
# Invoking hooks

Listeners run in turns: a turn lasts until the listener ends or pauses. A parallel hook gives turns
to its unfinished listeners in the order in which they last paused, and waits for all of them; the
failure that it reports is the first to occur. A series gives the turn to one listener after another
and stops at the first failure.

A listener may invoke a hook itself and then takes part of its turns in that hook's listeners. A
parallel hook that is waited for hands its turn back once two of its listeners have paused.
-/

namespace ModuleBundler.Hook

open FileSystem (Host)

/-- What listeners have to do with the world: the host, the notes they leave, and the hooks they
can invoke. -/
structure Stage (m : Type → Type) where
  host : Host m
  say : String → m Unit
  registry : Registry

/-- Steps on a compilation. No answer means that there was not enough fuel. -/
abbrev Action (m : Type → Type) := OptionT (StateT Compilation m)

def outOfFuel {m : Type → Type} [Monad m] {α : Type} : Action m α := OptionT.mk (return none)

def insertModule {m : Type → Type} [Monad m] (added : Module) :
    Action m (Except Graph.Error Unit) := do
  let c ← getThe Compilation
  match c.graph.insert added with
  | .error e => return .error e
  | .ok graph =>
    set { c with graph }
    return .ok ()

variable {m : Type → Type} [Monad m]

/-! ## Hooks that do not wait -/

/-- Runs a task to its end; `invokeSync` runs the hooks that it invokes. -/
def runSync (s : Stage m) (invokeSync : String → Action m (Except Error Unit)) :
    Task false → Action m Outcome
  | .finish outcome => return outcome
  | .look next => do runSync s invokeSync (next (← getThe Compilation))
  | .insert added next => do runSync s invokeSync (next (← insertModule added))
  | .say note next => do
    s.say note
    runSync s invokeSync next
  | .invokeSync hook next => do runSync s invokeSync (next (← invokeSync hook))

/-- Calls listeners in order up to the first failure. -/
def runTaps (run : Task false → Action m Outcome) (hook : String) :
    List Tap → Action m (Except Error Unit)
  | [] => return .ok ()
  | ⟨_, .async _⟩ :: taps => runTaps run hook taps
  | ⟨name, .sync task⟩ :: taps => do
    match ← run task with
    | .error cause => return .error (.listener hook name cause)
    | .ok _ => runTaps run hook taps

/-- Invokes a hook of `r` that does not wait. -/
def invokeSyncOn (s : Stage m) (nested : String → Action m (Except Error Unit)) (r : Registry)
    (hook : String) : Action m (Except Error Unit) :=
  match r.hooks.get? hook with
  | none => return .error (.unknown hook)
  | some d =>
    if d.kind = .sync then runTaps (runSync s nested) hook d.taps
    else return .error (.kindMismatch hook d.kind false)

/-- Invokes a hook of the stage, at most `fuel` hooks inside each other. -/
def invokeNested (s : Stage m) : Nat → String → Action m (Except Error Unit)
  | 0, _ => outOfFuel
  | fuel + 1, hook => invokeSyncOn s (invokeNested s fuel) s.registry hook

/-! ## Hooks that wait -/

mutual

/-- What is left of a listener's task. -/
inductive Running where
  | task (t : Task true)
  /-- The task waits for a hook and goes on with its result. -/
  | awaiting (i : Invocation) (next : Except Error Unit → Task true)

/-- What is left of a hook's invocation. -/
inductive Invocation where
  | series (hook : String) (current : Option (String × Running)) (rest : List Tap)
  | parallel (hook : String) (waiting : List (String × Running)) (failure? : Option Error)

end

/-- What a turn came to: something is left, or there is a result. -/
inductive Turn (ρ α : Type) where
  | paused (rest : ρ)
  | ended (result : α)

/-- Why a task's own steps stop. -/
inductive Stop where
  | finished (outcome : Outcome)
  | paused (next : Task true)
  | invoking (hook : String) (next : Except Error Unit → Task true)

/-- Takes the steps of a task up to its end, a pause, or a hook that it waits for. -/
def advance (s : Stage m) (invokeSync : String → Action m (Except Error Unit)) :
    Task true → Action m Stop
  | .finish outcome => return .finished outcome
  | .look next => do advance s invokeSync (next (← getThe Compilation))
  | .insert added next => do advance s invokeSync (next (← insertModule added))
  | .say note next => do
    s.say note
    advance s invokeSync next
  | .invokeSync hook next => do advance s invokeSync (next (← invokeSync hook))
  | .read _ path next => do advance s invokeSync (next (← s.host.read path))
  | .write _ path bytes next => do advance s invokeSync (next (← s.host.write path bytes))
  | .pause _ next => return .paused next
  | .invoke _ hook next => return .invoking hook next

/-- Begins to invoke a hook that waits; no listener is called yet. -/
def begin_ (r : Registry) (hook : String) : Except Error Invocation :=
  match r.hooks.get? hook with
  | none => .error (.unknown hook)
  | some d =>
    match d.kind with
    | .sync => .error (.kindMismatch hook .sync true)
    | .asyncParallel =>
      .ok (.parallel hook (d.taps.map fun t => (t.name, .task t.listener.task)) none)
    | .asyncSeries => .ok (.series hook none d.taps)

/-- The failure that a parallel hook reports once a listener has ended. -/
def firstFailure (hook listener : String) (outcome : Outcome) : Option Error → Option Error
  | some e => some e
  | none =>
    match outcome with
    | .ok _ => none
    | .error cause => some (.listener hook listener cause)

mutual

/-- Gives a turn to a listener. -/
def turn (s : Stage m) : Nat → Running → Action m (Turn Running Outcome)
  | 0, _ => outOfFuel
  | fuel + 1, .task t => do
    match ← advance s (invokeNested s fuel) t with
    | .finished outcome => return .ended outcome
    | .paused next => return .paused (.task next)
    | .invoking hook next =>
      match begin_ s.registry hook with
      | .error e => turn s fuel (.task (next (.error e)))
      | .ok i => turn s fuel (.awaiting i next)
  | fuel + 1, .awaiting i next => do
    match ← turns s fuel i 0 with
    | .paused i => return .paused (.awaiting i next)
    | .ended result => turn s fuel (.task (next result))

/-- Gives turns to the listeners of a hook, `paused` of which have paused since one last ended. -/
def turns (s : Stage m) : Nat → Invocation → Nat → Action m (Turn Invocation (Except Error Unit))
  | 0, _, _ => outOfFuel
  | fuel + 1, .series hook current rest, _ => do
    match current, rest with
    | none, [] => return .ended (.ok ())
    | none, tap :: rest =>
      turns s fuel (.series hook (some (tap.name, .task tap.listener.task)) rest) 0
    | some (name, running), rest =>
      match ← turn s fuel running with
      | .paused running => return .paused (.series hook (some (name, running)) rest)
      | .ended (.error cause) => return .ended (.error (.listener hook name cause))
      | .ended (.ok _) => turns s fuel (.series hook none rest) 0
  | fuel + 1, .parallel hook waiting failure?, paused => do
    match waiting with
    | [] =>
      match failure? with
      | some e => return .ended (.error e)
      | none => return .ended (.ok ())
    | (name, running) :: waiting =>
      match ← turn s fuel running with
      | .paused running =>
        let waiting := waiting ++ [(name, running)]
        if 2 ≤ paused + 1 ∨ waiting.length ≤ paused + 1 then
          return .paused (.parallel hook waiting failure?)
        else turns s fuel (.parallel hook waiting failure?) (paused + 1)
      | .ended outcome =>
        turns s fuel (.parallel hook waiting (firstFailure hook name outcome failure?)) 0

end

/-- Gives turns until an invocation has ended. -/
def complete (s : Stage m) : Nat → Invocation → Action m (Except Error Unit)
  | 0, _ => outOfFuel
  | fuel + 1, i => do
    match ← turns s fuel i 0 with
    | .paused i => complete s fuel i
    | .ended result => return result

/-- Invokes a hook of `r` and waits for its listeners. -/
def invoke (s : Stage m) (fuel : Nat) (r : Registry) (hook : String) :
    Action m (Except Error Unit) :=
  match begin_ r hook with
  | .error e => return .error e
  | .ok i => complete s fuel i

/-- Invokes a hook of `r` that does not wait. -/
def invokeSync (s : Stage m) (fuel : Nat) (r : Registry) (hook : String) :
    Action m (Except Error Unit) :=
  invokeSyncOn s (invokeNested s fuel) r hook

end ModuleBundler.Hook
