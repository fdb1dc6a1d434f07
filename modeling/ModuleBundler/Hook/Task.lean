import ModuleBundler.Compilation
import ModuleBundler.FileSystem.Host

/-!
# Tasks of listeners

What a listener does when it is called: it looks at the compilation, adds modules to the graph,
uses files, invokes hooks, and ends well or with a cause. Only a task that may wait can pause, use
files or wait for a hook.
-/

namespace ModuleBundler.Hook

/-- How a listener ended. -/
abbrev Outcome := Except Cause Unit

inductive Task (waits : Bool) where
  | finish (outcome : Outcome)
  | look (next : Compilation → Task waits)
  | insert (m : Module) (next : Except Graph.Error Unit → Task waits)
  /-- Says something to whoever runs the compiler. -/
  | say (note : String) (next : Task waits)
  | invokeSync (hook : String) (next : Except Error Unit → Task waits)
  | pause (h : waits = true) (next : Task waits)
  | invoke (h : waits = true) (hook : String) (next : Except Error Unit → Task waits)
  | read (h : waits = true) (path : String)
      (next : Except FileSystem.Error Text.Bytes → Task waits)
  | write (h : waits = true) (path : String) (bytes : Text.Bytes)
      (next : Except FileSystem.Error Unit → Task waits)

namespace Task

instance {waits : Bool} : Inhabited (Task waits) := ⟨.finish (.ok ())⟩

def succeed {waits : Bool} : Task waits := .finish (.ok ())

def fail {waits : Bool} (message : String) : Task waits := .finish (.error ⟨message, []⟩)

/-- A task that never waits, as one that might. -/
def lift {waits : Bool} : Task waits → Task true
  | .finish outcome => .finish outcome
  | .look next => .look fun c => (next c).lift
  | .insert m next => .insert m fun r => (next r).lift
  | .say note next => .say note next.lift
  | .invokeSync hook next => .invokeSync hook fun r => (next r).lift
  | .pause _ next => .pause rfl next.lift
  | .invoke _ hook next => .invoke rfl hook fun r => (next r).lift
  | .read _ path next => .read rfl path fun r => (next r).lift
  | .write _ path bytes next => .write rfl path bytes fun r => (next r).lift

end Task

inductive Listener where
  | sync (run : Task false)
  | async (run : Task true)

namespace Listener

def isAsync : Listener → Bool
  | .sync _ => false
  | .async _ => true

/-- The listener's task, which an asynchronous hook may wait for. -/
def task : Listener → Task true
  | .sync run => run.lift
  | .async run => run

def describe : Listener → String
  | .sync _ => "Listener::Sync"
  | .async _ => "Listener::Async"

end Listener

end ModuleBundler.Hook
