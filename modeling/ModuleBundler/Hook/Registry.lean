import ModuleBundler.Hook.Task
import ModuleBundler.OrderedMap

/-!
# Registries of hooks

Hooks by name, in the order of their declaration, each with its listeners in the order in which
they were registered. A call that is rejected changes nothing.
-/

namespace ModuleBundler.Hook

/-- A listener on a hook, under the name that errors give. -/
structure Tap where
  name : String
  listener : Listener

structure Declaration where
  kind : Kind
  taps : List Tap := []

structure Registry where
  hooks : OrderedMap String Declaration

namespace Registry

/-- The built-in hooks without listeners. -/
def builtin : Registry := ⟨.ofList (builtins.map fun (name, kind) => (name, ⟨kind, []⟩))⟩

instance : Inhabited Registry := ⟨builtin⟩

def kind? (r : Registry) (hook : String) : Option Kind := (r.hooks.get? hook).map (·.kind)

/-- The listeners on a hook; an unknown hook has none. -/
def taps (r : Registry) (hook : String) : List Tap := ((r.hooks.get? hook).map (·.taps)).getD []

def listenerNames (r : Registry) (hook : String) : List String := (r.taps hook).map (·.name)

/-- Declares a hook. Declaring it again as what it is changes nothing. -/
def declare (r : Registry) (hook : String) (kind : Kind) : Except Error Registry :=
  match r.kind? hook with
  | none => .ok ⟨r.hooks.insert hook ⟨kind, []⟩⟩
  | some existing =>
    if existing = kind then .ok r else .error (.kindConflict hook existing kind)

/-- Adds a listener at the end of a hook's list. A hook that does not wait takes no listener that
does. -/
def register (r : Registry) (hook name : String) (l : Listener) : Except Error Registry :=
  match r.hooks.get? hook with
  | none => .error (.unknown hook)
  | some d =>
    if d.kind = .sync ∧ l.isAsync then .error (.asyncListener hook name)
    else .ok ⟨r.hooks.insert hook { d with taps := d.taps ++ [⟨name, l⟩] }⟩

def summaries (r : Registry) : List Summary :=
  r.hooks.entries.map fun (name, d) => ⟨name, d.kind, d.taps.map (·.name)⟩

def describe (r : Registry) : String :=
  "\x7b" ++ ", ".intercalate (r.summaries.map fun s =>
    Text.literal s.name ++ ": " ++ s.kind.name ++ " (" ++ toString s.listeners.length ++
      " listeners)") ++ "\x7d"

end Registry

end ModuleBundler.Hook
