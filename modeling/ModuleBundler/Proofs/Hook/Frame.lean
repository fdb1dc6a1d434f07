import Mathlib.Order.Defs.Unbundled
import ModuleBundler.Hook.Invocation
import ModuleBundler.Proofs.Graph.Growth

/-!
# What listeners can change

A preorder on states says where the steps of listeners may lead. When the steps of every task keep
to it, so does every turn, and so does every invocation of a hook.

In particular listeners leave a run as it is, except that its graph may have grown and that files
may have been read or written. What does not show the operations that they are confined to stays
the same.
-/

namespace ModuleBundler.Hook

open ModuleBundler.Graph (Extends)

/-- Nothing but the graph of a compilation has changed between two states, and it has grown;
`view` shows what the rest of the world keeps. -/
structure Grows {τ β : Type} (view : τ → β) (a b : Compilation × τ) : Prop where
  entry : b.1.entry = a.1.entry
  output : b.1.output = a.1.output
  artifact : b.1.artifact? = a.1.artifact?
  graph : Extends a.1.graph b.1.graph
  rest : view b.2 = view a.2

namespace Grows

variable {τ β : Type} {view : τ → β}

@[refl] theorem refl (a : Compilation × τ) : Grows view a a :=
  ⟨rfl, rfl, rfl, .refl _, rfl⟩

theorem trans {a b c : Compilation × τ} (hab : Grows view a b) (hbc : Grows view b c) :
    Grows view a c where
  entry := hbc.entry.trans hab.entry
  output := hbc.output.trans hab.output
  artifact := hbc.artifact.trans hab.artifact
  graph := hab.graph.trans hbc.graph
  rest := hbc.rest.trans hab.rest

instance : IsPreorder (Compilation × τ) (Grows view) where
  refl := .refl
  trans _ _ _ := .trans

end Grows

variable {n : Type → Type} [Monad n] {τ : Type} [World n τ] {β : Type} (view : τ → β)

/-- The action leads only to where `r` does, and whatever it gives satisfies `Q`. -/
def Along (r : Compilation × τ → Compilation × τ → Prop) {α : Type} (Q : α → Prop)
    (x : Action n α) : Prop :=
  ∀ s, r s (World.run x.run s).2 ∧ ∀ a, (World.run x.run s).1 = some a → Q a

/-- The action only lets the graph grow, and whatever it gives satisfies `Q`. -/
def Framed {α : Type} (Q : α → Prop) (x : Action n α) : Prop :=
  ∀ s, Grows view s (World.run x.run s).2 ∧ ∀ a, (World.run x.run s).1 = some a → Q a

namespace Framed

variable {view} {α γ : Type} {Q : α → Prop} {Q' : γ → Prop}

theorem run_pure (a : α) (s : Compilation × τ) :
    World.run (Pure.pure a : Action n α).run s = (some a, s) :=
  World.run_pure (some a) s

theorem run_outOfFuel (s : Compilation × τ) :
    World.run (outOfFuel : Action n α).run s = (Option.none, s) :=
  World.run_pure Option.none s

theorem run_bind (x : Action n α) (f : α → Action n γ) (s : Compilation × τ) :
    World.run (x >>= f).run s =
      match World.run x.run s with
      | (some a, s') => World.run (f a).run s'
      | (Option.none, s') => (Option.none, s') := by
  rw [OptionT.run_bind, Option.elimM, World.run_bind]
  rcases World.run x.run s with ⟨_ | a, s'⟩
  · exact World.run_pure _ _
  · rfl

theorem run_look (s : Compilation × τ) :
    World.run (getThe Compilation : Action n Compilation).run s = (some s.1, s) := by
  change World.run ((get : StateT Compilation n _) >>= fun a => Pure.pure (some a)) s = _
  rw [World.run_bind, World.run_pure, World.run_get]

theorem run_set (c : Compilation) (s : Compilation × τ) :
    World.run (set c : Action n PUnit).run s = (some ⟨⟩, c, s.2) := by
  change World.run ((set c : StateT Compilation n _) >>= fun a => Pure.pure (some a)) s = _
  rw [World.run_bind, World.run_pure, World.run_set]

theorem run_modify (f : Compilation → Compilation) (s : Compilation × τ) :
    World.run (modifyThe Compilation f : Action n PUnit).run s = (some ⟨⟩, f s.1, s.2) := by
  change World.run ((modify f : StateT Compilation n PUnit) >>= fun a => Pure.pure (some a)) s = _
  rw [World.run_bind, World.run_modify, World.run_pure]

theorem run_host (x : n α) (s : Compilation × τ) :
    World.run (liftM x : Action n α).run s =
      (some (World.run x s.2).1, s.1, (World.run x s.2).2) := by
  change World.run ((StateT.lift x : StateT Compilation n _) >>= fun a => Pure.pure (some a)) s = _
  rw [World.run_bind, World.run_pure, World.run_lift]

theorem run_insertModule (added : Module) (s : Compilation × τ) :
    World.run (Hook.insertModule added : Action n _).run s =
      match s.1.graph.insert added with
      | .error e => (some (.error e), s)
      | .ok graph => (some (.ok ()), { s.1 with graph }, s.2) := by
  rw [Hook.insertModule, run_bind, run_look]
  simp only
  cases s.1.graph.insert added with
  | error e => exact run_pure _ _
  | ok graph =>
    simp only
    rw [run_bind, run_set]
    exact run_pure _ _

end Framed

namespace Along

variable {r : Compilation × τ → Compilation × τ → Prop} {α γ : Type} {Q : α → Prop}
variable {Q' : γ → Prop}

theorem pure [Std.Refl r] {a : α} (h : Q a) : Along r Q (Pure.pure a : Action n α) := by
  intro s
  rw [Framed.run_pure]
  exact ⟨refl s, fun b hb => by cases hb; exact h⟩

theorem none [Std.Refl r] : Along r Q (outOfFuel : Action n α) := by
  intro s
  rw [Framed.run_outOfFuel]
  exact ⟨refl s, fun b hb => by cases hb⟩

theorem bind [IsTrans _ r] {x : Action n α} {f : α → Action n γ} (hx : Along r Q x)
    (hf : ∀ a, Q a → Along r Q' (f a)) : Along r Q' (x >>= f) := by
  intro s
  obtain ⟨hleads, hq⟩ := hx s
  rw [Framed.run_bind]
  rcases hr : World.run x.run s with ⟨_ | a, s'⟩
  · rw [hr] at hleads
    exact ⟨hleads, fun b hb => by cases hb⟩
  · rw [hr] at hleads hq
    obtain ⟨hleads', hq'⟩ := hf a (hq a rfl) s'
    exact ⟨trans_of r hleads hleads', hq'⟩

theorem look [Std.Refl r] :
    Along r (fun _ => True) (getThe Compilation : Action n Compilation) := by
  intro s
  rw [Framed.run_look]
  exact ⟨refl s, fun _ _ => trivial⟩

theorem host {x : n α} (hx : ∀ c t, r (c, t) (c, (World.run x t).2)) :
    Along r (fun _ => True) (liftM x : Action n α) := by
  intro s
  rw [Framed.run_host]
  exact ⟨hx s.1 s.2, fun _ _ => trivial⟩

theorem insertModule [Std.Refl r] (added : Module)
    (h : ∀ c graph t, c.graph.insert added = .ok graph → r (c, t) ({ c with graph }, t)) :
    Along r (fun _ => True) (insertModule added : Action n _) := by
  intro s
  refine ⟨?_, fun _ _ => trivial⟩
  rw [Framed.run_insertModule]
  cases hg : s.1.graph.insert added with
  | error e => exact refl s
  | ok graph => exact h s.1 graph s.2 hg

end Along

namespace Framed

variable {view} {α γ : Type} {Q : α → Prop} {Q' : γ → Prop}

theorem pure {a : α} (h : Q a) : Framed view Q (Pure.pure a : Action n α) :=
  Along.pure h

theorem none : Framed view Q (outOfFuel : Action n α) :=
  Along.none

theorem bind {x : Action n α} {f : α → Action n γ} (hx : Framed view Q x)
    (hf : ∀ a, Q a → Framed view Q' (f a)) : Framed view Q' (x >>= f) :=
  Along.bind hx hf

theorem look : Framed view (fun _ => True) (getThe Compilation : Action n Compilation) :=
  Along.look

theorem host {x : n α} (hx : Preserves view x) :
    Framed view (fun _ => True) (liftM x : Action n α) :=
  Along.host fun _ t => ⟨rfl, rfl, rfl, .refl _, hx t⟩

theorem insertModule (added : Module) :
    Framed view (fun _ => True) (insertModule added : Action n _) :=
  Along.insertModule added fun _ _ _ hg => ⟨rfl, rfl, rfl, .of_insert hg, rfl⟩

end Framed

section All

mutual

/-- What is left of a listener is made of tasks that satisfy `K`. -/
inductive Running.All (K : Task true → Prop) : Running → Prop
  | task {t : Task true} : K t → Running.All K (.task t)
  | awaiting {i : Invocation} {next : Except Error Unit → Task true} :
    i.All K → (∀ result, K (next result)) → Running.All K (.awaiting i next)

/-- What is left of an invocation is made of such tasks. -/
inductive Invocation.All (K : Task true → Prop) : Invocation → Prop
  | series {hook : String} {current : Option (String × Running)} {rest : List Tap} :
    (∀ p ∈ current, p.2.All K) → (∀ tap ∈ rest, K tap.listener.task) →
      Invocation.All K (.series hook current rest)
  | parallel {hook : String} {waiting : List (String × Running)} {failure? : Option Error} :
    (∀ p ∈ waiting, p.2.All K) → Invocation.All K (.parallel hook waiting failure?)

end

/-- What stops a task leaves tasks that satisfy `K`. -/
def Stop.All (K : Task true → Prop) : Stop → Prop
  | .finished _ => True
  | .paused next => K next
  | .invoking _ next => ∀ result, K (next result)

/-- What a turn leaves satisfies `kept`. -/
def Turn.Leaves {ρ α : Type} (kept : ρ → Prop) : Turn ρ α → Prop
  | .paused rest => kept rest
  | .ended _ => True

/-- The tasks of all listeners satisfy `K`. -/
def Registry.All (K : Task true → Prop) (r : Registry) : Prop :=
  ∀ hook, ∀ tap ∈ r.taps hook, K tap.listener.task

variable {K : Task true → Prop} {reg : Registry} {hook : String}

/-- What holds of the listeners that are listed holds of all that a hook has. -/
theorem Registry.forall_taps {r : Registry} {P : Tap → Prop}
    (h : ∀ e ∈ r.hooks.entries, ∀ tap ∈ e.2.taps, P tap) : ∀ hook, ∀ tap ∈ r.taps hook, P tap := by
  intro hook tap htap
  rw [Registry.taps, OrderedMap.get?] at htap
  cases hf : r.hooks.entries.find? (·.1 == hook) with
  | none => simp [hf] at htap
  | some e =>
    rw [hf] at htap
    exact h e (List.mem_of_find?_eq_some hf) tap htap

theorem Registry.mem_taps {d : Declaration} (hd : reg.hooks.get? hook = some d) {tap : Tap}
    (htap : tap ∈ d.taps) : tap ∈ reg.taps hook := by
  rw [Registry.taps, hd]
  exact htap

theorem Registry.All.tap (h : reg.All K) {d : Declaration} (hd : reg.hooks.get? hook = some d)
    {tap : Tap} (htap : tap ∈ d.taps) : K tap.listener.task :=
  h hook tap (mem_taps hd htap)

theorem all_of_begin (h : reg.All K) {i : Invocation} (hi : begin_ reg hook = .ok i) : i.All K := by
  unfold begin_ at hi
  split at hi
  · cases hi
  · rename_i d hd
    split at hi
    · cases hi
    · cases hi
      refine .parallel fun p hp => ?_
      obtain ⟨tap, htap, rfl⟩ := List.mem_map.1 hp
      exact .task (h.tap hd htap)
    · cases hi
      exact .series (fun p hp => by cases hp) fun tap htap => h.tap hd htap

end All

section Confined

open FileSystem (Operation)

variable (may : Operation → Prop)

/-- A task that asks for no other operations on files than `may` allows. -/
def Task.Confined {waits : Bool} : Task waits → Prop
  | .finish _ => True
  | .look next => ∀ c, (next c).Confined
  | .insert _ next => ∀ r, (next r).Confined
  | .say _ next => next.Confined
  | .invokeSync _ next => ∀ r, (next r).Confined
  | .pause _ next => next.Confined
  | .invoke _ _ next => ∀ r, (next r).Confined
  | .read _ _ next => may .read ∧ ∀ r, (next r).Confined
  | .write _ _ _ next => may .write ∧ ∀ r, (next r).Confined

/-- A listener that asks for no other operations on files. One that does not wait asks for none. -/
def Listener.Confined : Listener → Prop
  | .sync _ => True
  | .async task => task.Confined may

/-- No listener asks for other operations on files. -/
def Registry.Confined (r : Registry) : Prop :=
  ∀ hook, ∀ tap ∈ r.taps hook, tap.listener.Confined may

variable {may}

theorem Task.confined_lift (t : Task false) : t.lift.Confined may := by
  induction t with
  | finish outcome => trivial
  | look next ih => exact ih
  | insert m next ih => exact ih
  | say note next ih => exact ih
  | invokeSync hook next ih => exact ih
  | pause h next ih => cases h
  | invoke h hook next ih => cases h
  | read h path next ih => cases h
  | write h path bytes next ih => cases h

/-- When everything is allowed, every task is confined. -/
theorem Task.confined_of_forall (h : ∀ o, may o) {waits : Bool} (t : Task waits) :
    t.Confined may := by
  induction t with
  | finish outcome => trivial
  | look next ih => exact ih
  | insert m next ih => exact ih
  | say note next ih => exact ih
  | invokeSync hook next ih => exact ih
  | pause hw next ih => exact ih
  | invoke hw hook next ih => exact ih
  | read hw path next ih => exact ⟨h .read, ih⟩
  | write hw path bytes next ih => exact ⟨h .write, ih⟩

theorem Registry.confined_of_forall (h : ∀ o, may o) (r : Registry) : r.Confined may := by
  intro hook tap _
  cases tap.listener with
  | sync run => trivial
  | async task => exact task.confined_of_forall h

theorem Listener.Confined.task {l : Listener} (h : l.Confined may) : l.task.Confined may := by
  cases l with
  | sync run => exact run.confined_lift
  | async task => exact h

theorem Registry.Confined.tap {r : Registry} (h : r.Confined may) {hook : String} {d : Declaration}
    (hd : r.hooks.get? hook = some d) {tap : Tap} (htap : tap ∈ d.taps) :
    tap.listener.Confined may :=
  h hook tap (mem_taps hd htap)

/-- What is left of a listener asks for no other operations on files. -/
abbrev Running.Confined (may : Operation → Prop) : Running → Prop := Running.All (Task.Confined may)

/-- What is left of an invocation asks for no other operations on files. -/
abbrev Invocation.Confined (may : Operation → Prop) : Invocation → Prop :=
  Invocation.All (Task.Confined may)

/-- Listeners ask for no other operations on files than `may` allows, and neither these nor what
they say show in `view`. -/
structure Stage.Confined (may : Operation → Prop) (s : Stage n) : Prop where
  registry : s.registry.Confined may
  say (note : String) : Preserves view (s.say note)
  read (h : may .read) (path : String) : Preserves view (s.host.read path)
  write (h : may .write) (path : String) (bytes : Text.Bytes) :
    Preserves view (s.host.write path bytes)

end Confined

section Quiet

/-- A task that writes no file. -/
def Task.Quiet {waits : Bool} : Task waits → Prop
  | .finish _ => True
  | .look next => ∀ c, (next c).Quiet
  | .insert _ next => ∀ r, (next r).Quiet
  | .say _ next => next.Quiet
  | .invokeSync _ next => ∀ r, (next r).Quiet
  | .pause _ next => next.Quiet
  | .invoke _ _ next => ∀ r, (next r).Quiet
  | .read _ _ next => ∀ r, (next r).Quiet
  | .write .. => False

/-- A listener that writes no file. One that does not wait cannot. -/
def Listener.Quiet : Listener → Prop
  | .sync _ => True
  | .async task => task.Quiet

/-- No listener writes a file. -/
def Registry.Quiet (r : Registry) : Prop :=
  ∀ hook, ∀ tap ∈ r.taps hook, tap.listener.Quiet

theorem Registry.quiet_of_entries {r : Registry}
    (h : ∀ e ∈ r.hooks.entries, ∀ tap ∈ e.2.taps, tap.listener.Quiet) : r.Quiet :=
  Registry.forall_taps h

/-- Listeners write no file, and what they say and read does not show in `view`. -/
structure Stage.Quiet (s : Stage n) : Prop where
  registry : s.registry.Quiet
  say (note : String) : Preserves view (s.say note)
  read (path : String) : Preserves view (s.host.read path)

theorem Task.Quiet.confined {waits : Bool} {t : Task waits} (h : t.Quiet) :
    t.Confined (· ≠ .write) := by
  induction t with
  | finish outcome => trivial
  | look next ih => exact fun c => ih c (h c)
  | insert m next ih => exact fun r => ih r (h r)
  | say note next ih => exact ih h
  | invokeSync hook next ih => exact fun r => ih r (h r)
  | pause hw next ih => exact ih h
  | invoke hw hook next ih => exact fun r => ih r (h r)
  | read hw path next ih => exact ⟨nofun, fun r => ih r (h r)⟩
  | write hw path bytes next ih => exact h.elim

theorem Listener.Quiet.confined {l : Listener} (h : l.Quiet) : l.Confined (· ≠ .write) := by
  cases l with
  | sync run => trivial
  | async task => exact Task.Quiet.confined h

theorem Registry.Quiet.confined {r : Registry} (h : r.Quiet) : r.Confined (· ≠ .write) :=
  fun hook tap htap => (h hook tap htap).confined

variable {view} in
theorem Stage.Quiet.confined {s : Stage n} (h : s.Quiet view) : s.Confined view (· ≠ .write) where
  registry := h.registry.confined
  say := h.say
  read _ := h.read
  write hwrite := absurd rfl hwrite

end Quiet

/-- The steps of the stage lead only to where `r` does, as long as the tasks of its listeners
satisfy `K`. -/
structure Stage.Keeps (r : Compilation × τ → Compilation × τ → Prop) (K : Task true → Prop)
    (s : Stage n) : Prop where
  registry : s.registry.All K
  insert (added : Module) : Along r (fun _ => True) (insertModule added : Action n _)
  say (note : String) : Along r (fun _ => True) (liftM (s.say note) : Action n Unit)
  advance {nested : String → Action n (Except Error Unit)}
    (hn : ∀ hook, Along r (fun _ => True) (nested hook)) {t : Task true} (ht : K t) :
    Along r (Stop.All K) (advance s nested t)

section Keeps

variable {r : Compilation × τ → Compilation × τ → Prop} [Std.Refl r] [IsTrans _ r]
variable {K : Task true → Prop} {s : Stage n} {reg : Registry}
variable {nested : String → Action n (Except Error Unit)}

section Sync

theorem runSync_along (hs : s.Keeps r K) (hn : ∀ hook, Along r (fun _ => True) (nested hook))
    (t : Task false) : Along r (fun _ => True) (runSync s nested t) := by
  induction t with
  | finish outcome => exact .pure trivial
  | look next ih => exact .bind .look fun c _ => ih c
  | insert m next ih => exact .bind (hs.insert m) fun result _ => ih result
  | say note next ih => exact .bind (hs.say note) fun _ _ => ih
  | invokeSync hook next ih => exact .bind (hn hook) fun result _ => ih result
  | pause h next ih => cases h
  | invoke h hook next ih => cases h
  | read h path next ih => cases h
  | write h path bytes next ih => cases h

theorem runTaps_along {run : Task false → Action n Outcome}
    (hrun : ∀ t, Along r (fun _ => True) (run t)) (hook : String) (taps : List Tap) :
    Along r (fun _ => True) (runTaps run hook taps) := by
  induction taps with
  | nil => exact .pure trivial
  | cons tap taps ih =>
    obtain ⟨name, listener⟩ := tap
    cases listener with
    | async task => exact ih
    | sync task =>
      refine .bind (hrun task) fun outcome _ => ?_
      cases outcome with
      | error cause => exact .pure trivial
      | ok _ => exact ih

theorem invokeSyncOn_along (hs : s.Keeps r K) (hn : ∀ hook, Along r (fun _ => True) (nested hook))
    (reg : Registry) (hook : String) :
    Along r (fun _ => True) (invokeSyncOn s nested reg hook) := by
  unfold invokeSyncOn
  split
  · exact .pure trivial
  · split
    · exact runTaps_along (runSync_along hs hn) hook _
    · exact .pure trivial

theorem invokeNested_along (hs : s.Keeps r K) (fuel : Nat) (hook : String) :
    Along r (fun _ => True) (invokeNested s fuel hook) := by
  induction fuel generalizing hook with
  | zero => exact .none
  | succ fuel ih => exact invokeSyncOn_along hs ih s.registry hook

end Sync

section Waiting

/-- With some fuel, turns of listeners with such tasks keep to `r` and leave such tasks. -/
def TurnAlong (r : Compilation × τ → Compilation × τ → Prop) (K : Task true → Prop) (s : Stage n)
    (fuel : Nat) : Prop :=
  ∀ running : Running, running.All K → Along r (Turn.Leaves (Running.All K)) (turn s fuel running)

/-- With some fuel, turns of invocations with such tasks do so too. -/
def TurnsAlong (r : Compilation × τ → Compilation × τ → Prop) (K : Task true → Prop) (s : Stage n)
    (fuel : Nat) : Prop :=
  ∀ (i : Invocation) (paused : Nat), i.All K →
    Along r (Turn.Leaves (Invocation.All K)) (turns s fuel i paused)

section Step

variable {fuel paused : Nat} (hturn : TurnAlong r K s fuel) (hturns : TurnsAlong r K s fuel)

include hturn hturns

theorem turn_succ_along (hs : s.Keeps r K) : TurnAlong r K s (fuel + 1) := by
  intro running hr
  cases hr with
  | task ht =>
    rw [turn]
    refine .bind (hs.advance (invokeNested_along hs fuel) ht) fun stop hstop => ?_
    cases stop with
    | finished outcome => exact .pure trivial
    | paused next => exact .pure (.task hstop)
    | invoking hook next =>
      simp only
      split
      · exact hturn _ (.task (hstop _))
      · rename_i i hi
        exact hturn _ (.awaiting (all_of_begin hs.registry hi) hstop)
  | awaiting hi hnext =>
    rw [turn]
    refine .bind (hturns _ 0 hi) fun t ht => ?_
    cases t with
    | paused i => exact .pure (.awaiting ht hnext)
    | ended result => exact hturn _ (.task (hnext result))

theorem turns_series_along {hook : String} {current : Option (String × Running)} {rest : List Tap}
    (hcurrent : ∀ p ∈ current, p.2.All K) (hrest : ∀ tap ∈ rest, K tap.listener.task) :
    Along r (Turn.Leaves (Invocation.All K))
      (turns s (fuel + 1) (.series hook current rest) paused) := by
  unfold turns
  cases current with
  | none =>
    cases rest with
    | nil => exact .pure trivial
    | cons tap rest =>
      obtain ⟨htap, hrest⟩ := List.forall_mem_cons.1 hrest
      refine hturns _ 0 (.series (fun p hp => ?_) hrest)
      cases hp
      exact .task htap
  | some p =>
    refine .bind (hturn p.2 (hcurrent p rfl)) fun t ht => ?_
    cases t with
    | paused running => exact .pure (.series (fun q hq => by cases hq; exact ht) hrest)
    | ended outcome =>
      cases outcome with
      | error cause => exact .pure trivial
      | ok _ => exact hturns _ 0 (.series (fun q hq => by cases hq) hrest)

theorem turns_parallel_along {hook : String} {waiting : List (String × Running)}
    {failure? : Option Error} (hwaiting : ∀ p ∈ waiting, p.2.All K) :
    Along r (Turn.Leaves (Invocation.All K))
      (turns s (fuel + 1) (.parallel hook waiting failure?) paused) := by
  unfold turns
  cases waiting with
  | nil =>
    cases failure? with
    | none => exact .pure trivial
    | some e => exact .pure trivial
  | cons p waiting =>
    obtain ⟨hp, hwaiting⟩ := List.forall_mem_cons.1 hwaiting
    refine .bind (hturn p.2 hp) fun t ht => ?_
    cases t with
    | paused running =>
      have hall : ∀ q ∈ waiting ++ [(p.1, running)], q.2.All K := by
        intro q hq
        rcases List.mem_append.1 hq with hq | hq
        · exact hwaiting q hq
        · exact List.mem_singleton.1 hq ▸ ht
      simp only
      split
      · exact .pure (.parallel hall)
      · exact hturns _ _ (.parallel hall)
    | ended outcome => exact hturns _ 0 (.parallel hwaiting)

end Step

/-- By induction on the fuel, for listeners and invocations together. -/
theorem turn_turns_along (hs : s.Keeps r K) (fuel : Nat) :
    TurnAlong r K s fuel ∧ TurnsAlong r K s fuel := by
  induction fuel with
  | zero =>
    constructor
    · intro running _
      rw [turn]
      exact .none
    · intro i paused _
      rw [turns]
      exact .none
  | succ fuel ih =>
    obtain ⟨hturn, hturns⟩ := ih
    refine ⟨turn_succ_along hturn hturns hs, ?_⟩
    intro i paused hi
    cases hi with
    | series hcurrent hrest => exact turns_series_along hturn hturns hcurrent hrest
    | parallel hwaiting => exact turns_parallel_along hturn hturns hwaiting

theorem complete_along (hs : s.Keeps r K) (fuel : Nat) {i : Invocation} (hi : i.All K) :
    Along r (fun _ => True) (complete s fuel i) := by
  induction fuel generalizing i with
  | zero => exact .none
  | succ fuel ih =>
    rw [complete]
    refine .bind ((turn_turns_along hs fuel).2 i 0 hi) fun t ht => ?_
    cases t with
    | paused i => exact ih ht
    | ended result => exact .pure trivial

/-- Invoking a hook and waiting for it leads only to where the steps of its listeners do. -/
theorem invoke_along (hs : s.Keeps r K) (fuel : Nat) (hreg : reg.All K) (hook : String) :
    Along r (fun _ => True) (invoke s fuel reg hook) := by
  unfold invoke
  split
  · exact .pure trivial
  · rename_i i hi
    exact complete_along hs fuel (all_of_begin hreg hi)

/-- Invoking a hook that does not wait leads only to where the steps of its listeners do. -/
theorem invokeSync_along (hs : s.Keeps r K) (fuel : Nat) (reg : Registry) (hook : String) :
    Along r (fun _ => True) (invokeSync s fuel reg hook) :=
  invokeSyncOn_along hs (invokeNested_along hs fuel) reg hook

end Waiting

end Keeps

variable {view} {may : FileSystem.Operation → Prop} {s : Stage n}
variable {nested : String → Action n (Except Error Unit)}

theorem Registry.Confined.all {r : Registry} (h : r.Confined may) : r.All (Task.Confined may) :=
  fun hook tap htap => (h hook tap htap).task

theorem advance_framed (hs : s.Confined view may)
    (hn : ∀ hook, Framed view (fun _ => True) (nested hook)) {t : Task true}
    (ht : t.Confined may) : Framed view (Stop.All (Task.Confined may)) (advance s nested t) := by
  induction t with
  | finish outcome => exact .pure trivial
  | look next ih => exact .bind .look fun c _ => ih c (ht c)
  | insert m next ih => exact .bind (.insertModule m) fun r _ => ih r (ht r)
  | say note next ih => exact .bind (.host (hs.say note)) fun _ _ => ih ht
  | invokeSync hook next ih => exact .bind (hn hook) fun r _ => ih r (ht r)
  | pause h next ih => exact .pure ht
  | invoke h hook next ih => exact .pure ht
  | read h path next ih => exact .bind (.host (hs.read ht.1 path)) fun r _ => ih r (ht.2 r)
  | write h path bytes next ih =>
    exact .bind (.host (hs.write ht.1 path bytes)) fun r _ => ih r (ht.2 r)

/-- Confined listeners let the graph grow and change nothing else. -/
theorem Stage.Confined.keeps (hs : s.Confined view may) :
    s.Keeps (Grows view) (Task.Confined may) where
  registry := hs.registry.all
  insert := Framed.insertModule
  say note := Framed.host (hs.say note)
  advance := advance_framed hs

theorem runSync_framed (hs : s.Confined view may)
    (hn : ∀ hook, Framed view (fun _ => True) (nested hook)) (t : Task false) :
    Framed view (fun _ => True) (runSync s nested t) :=
  runSync_along hs.keeps hn t

theorem invokeNested_framed (hs : s.Confined view may) (fuel : Nat) (hook : String) :
    Framed view (fun _ => True) (invokeNested s fuel hook) :=
  invokeNested_along hs.keeps fuel hook

/-- A turn of a confined listener lets the graph grow and leaves the listener confined. -/
theorem turn_framed (hs : s.Confined view may) (fuel : Nat) {r : Running} (hr : r.Confined may) :
    Framed view (Turn.Leaves (Running.Confined may)) (turn s fuel r) :=
  (turn_turns_along hs.keeps fuel).1 r hr

/-- Invoking a hook and waiting for it lets the graph grow and changes nothing else. -/
theorem invoke_framed (hs : s.Confined view may) (fuel : Nat) {r : Registry} (hr : r.Confined may)
    (hook : String) : Framed view (fun _ => True) (invoke s fuel r hook) :=
  invoke_along hs.keeps fuel hr.all hook

/-- Invoking a hook that does not wait lets the graph grow and changes nothing else. -/
theorem invokeSync_framed (hs : s.Confined view may) (fuel : Nat) (r : Registry) (hook : String) :
    Framed view (fun _ => True) (invokeSync s fuel r hook) :=
  invokeSync_along hs.keeps fuel r hook

end ModuleBundler.Hook
