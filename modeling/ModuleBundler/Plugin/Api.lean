import ModuleBundler.Compiler.Config

/-!
# What plugins can do

While a plugin is applied, it looks at the registry of hooks, declares hooks, and registers
listeners, which get its name. It is told how each call ended, and may go on after one that was
rejected.
-/

namespace ModuleBundler.Plugin

open Compiler (Plugin Settings Setup)
open Hook (Kind Listener Outcome Registry Task)

inductive Act where
  | finish (outcome : Outcome)
  /-- Says something to whoever makes the compiler. -/
  | say (note : String) (next : Act)
  | look (next : Registry → Act)
  | declare (hook : String) (kind : Kind) (next : Except Hook.Error Unit → Act)
  | register (hook : String) (l : Listener) (next : Except Hook.Error Unit → Act)

namespace Act

instance : Inhabited Act := ⟨.finish (.ok ())⟩

/-- Registers a listener that does not wait. -/
def tap (hook : String) (run : Task false) (next : Except Hook.Error Unit → Act) : Act :=
  .register hook (.sync run) next

/-- Registers a listener that may wait. -/
def tapAsync (hook : String) (run : Task true) (next : Except Hook.Error Unit → Act) : Act :=
  .register hook (.async run) next

/-- Acts on a registry under a plugin's name. -/
def perform (name : String) : Act → Registry → Setup
  | .finish outcome, r => { registry := r, outcome }
  | .say note next, r =>
    let setup := next.perform name r
    { setup with notes := note :: setup.notes }
  | .look next, r => (next r).perform name r
  | .declare hook kind next, r =>
    match r.declare hook kind with
    | .ok r => (next (.ok ())).perform name r
    | .error e => (next (.error e)).perform name r
  | .register hook l next, r =>
    match r.register hook name l with
    | .ok r => (next (.ok ())).perform name r
    | .error e => (next (.error e)).perform name r

end Act

/-- A plugin by what it does, which may depend on the configuration. -/
structure Acting where
  name : String
  isRegistrar : Bool := false
  act : Settings → Act

def Acting.plugin (a : Acting) : Plugin where
  name := a.name
  isRegistrar := a.isRegistrar
  apply s r := (a.act s).perform a.name r

end ModuleBundler.Plugin
