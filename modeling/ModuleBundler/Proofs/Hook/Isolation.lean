import ModuleBundler.Proofs.Hook.Frame
import ModuleBundler.Proofs.Mirror

/-!
# Listeners that leave the built-in hooks to the run

Where no listener invokes a built-in hook, what listeners do in their turns does not depend on the
listeners of these hooks. An invocation of a hook is then the same as a watched one under some
schedule.
-/

namespace ModuleBundler.Hook

open FileSystem (Host)

def builtinNames : List String := builtins.map Prod.fst

/-- A task that invokes no built-in hook. -/
def Task.Isolated {waits : Bool} : Task waits → Prop
  | .finish _ => True
  | .look next => ∀ c, (next c).Isolated
  | .insert _ next => ∀ r, (next r).Isolated
  | .say _ next => next.Isolated
  | .invokeSync hook next => hook ∉ builtinNames ∧ ∀ r, (next r).Isolated
  | .pause _ next => next.Isolated
  | .invoke _ hook next => hook ∉ builtinNames ∧ ∀ r, (next r).Isolated
  | .read _ _ next => ∀ r, (next r).Isolated
  | .write _ _ _ next => ∀ r, (next r).Isolated

def Listener.Isolated : Listener → Prop
  | .sync task => task.Isolated
  | .async task => task.Isolated

/-- No listener invokes a built-in hook. -/
def Registry.Isolated (r : Registry) : Prop :=
  ∀ hook, ∀ tap ∈ r.taps hook, tap.listener.Isolated

theorem Task.isolated_lift {t : Task false} (ht : t.Isolated) : t.lift.Isolated := by
  induction t with
  | finish outcome => trivial
  | look next ih => exact fun c => ih c (ht c)
  | insert m next ih => exact fun r => ih r (ht r)
  | say note next ih => exact ih ht
  | invokeSync hook next ih => exact ⟨ht.1, fun r => ih r (ht.2 r)⟩
  | pause h next ih => cases h
  | invoke h hook next ih => cases h
  | read h path next ih => cases h
  | write h path bytes next ih => cases h

theorem Listener.Isolated.task {l : Listener} (h : l.Isolated) : l.task.Isolated := by
  cases l with
  | sync run => exact Task.isolated_lift h
  | async task => exact h

theorem Registry.Isolated.tap {r : Registry} (h : r.Isolated) {hook : String} {d : Declaration}
    (hd : r.hooks.get? hook = some d) {tap : Tap} (htap : tap ∈ d.taps) :
    tap.listener.Isolated := by
  apply h hook
  rw [Registry.taps, hd]
  exact htap

mutual

/-- What is left of a listener invokes no built-in hook. -/
inductive Running.Isolated : Running → Prop
  | task {t : Task true} : t.Isolated → Running.Isolated (.task t)
  | awaiting {i : Invocation} {next : Except Error Unit → Task true} :
    i.Isolated → (∀ r, (next r).Isolated) → Running.Isolated (.awaiting i next)

/-- What is left of an invocation invokes no built-in hook. -/
inductive Invocation.Isolated : Invocation → Prop
  | series {hook : String} {current : Option (String × Running)} {rest : List Tap} :
    (∀ p ∈ current, p.2.Isolated) → (∀ tap ∈ rest, tap.listener.Isolated) →
      Invocation.Isolated (.series hook current rest)
  | parallel {hook : String} {waiting : List (String × Running)} {failure? : Option Error} :
    (∀ p ∈ waiting, p.2.Isolated) → Invocation.Isolated (.parallel hook waiting failure?)

end

def Stop.Isolated : Stop → Prop
  | .finished _ => True
  | .paused next => next.Isolated
  | .invoking hook next => hook ∉ builtinNames ∧ ∀ r, (next r).Isolated

def Turn.Isolated {ρ α : Type} (isolated : ρ → Prop) : Turn ρ α → Prop
  | .paused rest => isolated rest
  | .ended _ => True

/-- The registry without the listeners of the built-in hooks. -/
def Registry.silenced (r : Registry) : Registry where
  hooks :=
    { entries := r.hooks.entries.map fun e =>
        (e.1, if e.1 ∈ builtinNames then { e.2 with taps := [] } else e.2)
      nodup := by
        rw [List.map_map]
        exact r.hooks.nodup }

theorem Registry.get?_silenced (r : Registry) (hook : String) :
    r.silenced.hooks.get? hook = (r.hooks.get? hook).map fun d =>
      if hook ∈ builtinNames then { d with taps := [] } else d := by
  rw [OrderedMap.get?, OrderedMap.get?, silenced, List.find?_map, Option.map_map, Option.map_map]
  simp only [Function.comp_def]
  cases hfound : r.hooks.entries.find? (fun e : String × Declaration => e.1 == hook) with
  | none => rfl
  | some e =>
    have hsame : (e.1 == hook) = true :=
      List.find?_some (p := fun e : String × Declaration => e.1 == hook) hfound
    rw [beq_iff_eq] at hsame
    simp [hsame]

/-! ## Runs that agree -/

variable {m n : Type → Type} [Monad m] [Monad n] {σ τ : Type} [World m σ] [World n τ]

/-- Both actions do the same, the second in a world that keeps more, and whatever they give
satisfies `Q`. -/
def Agree (forget : τ → σ) {α : Type} (Q : α → Prop) (x : Action m α) (y : Action n α) : Prop :=
  ∀ s : Compilation × τ,
    World.run x.run (s.1, forget s.2) =
      Prod.map id (Prod.map id forget) (World.run y.run s) ∧
    ∀ a, (World.run y.run s).1 = some a → Q a

namespace Agree

variable {forget : τ → σ} {α γ : Type} {Q : α → Prop} {Q' : γ → Prop}

theorem pure {a : α} (h : Q a) :
    Agree forget Q (Pure.pure a : Action m α) (Pure.pure a : Action n α) := by
  intro s
  rw [Framed.run_pure, Framed.run_pure]
  exact ⟨rfl, fun b hb => by cases hb; exact h⟩

theorem lacking : Agree forget Q (outOfFuel : Action m α) (outOfFuel : Action n α) := by
  intro s
  rw [Framed.run_outOfFuel, Framed.run_outOfFuel]
  exact ⟨rfl, fun b hb => by cases hb⟩

theorem bind {x : Action m α} {y : Action n α} {f : α → Action m γ} {g : α → Action n γ}
    (hx : Agree forget Q x y) (hf : ∀ a, Q a → Agree forget Q' (f a) (g a)) :
    Agree forget Q' (x >>= f) (y >>= g) := by
  intro s
  obtain ⟨hsame, hQ⟩ := hx s
  rw [Framed.run_bind, Framed.run_bind, hsame]
  rcases hr : World.run y.run s with ⟨_ | a, t⟩
  · exact ⟨rfl, fun b hb => by cases hb⟩
  · rw [hr] at hQ
    exact hf a (hQ a rfl) t

theorem look : Agree forget (fun _ => True) (getThe Compilation : Action m Compilation)
    (getThe Compilation : Action n Compilation) := by
  intro s
  rw [Framed.run_look, Framed.run_look]
  exact ⟨rfl, fun _ _ => trivial⟩

theorem insertModule (added : Module) : Agree forget (fun _ => True)
    (insertModule added : Action m _) (insertModule added : Action n _) := by
  intro s
  refine ⟨?_, fun _ _ => trivial⟩
  rw [Framed.run_insertModule, Framed.run_insertModule]
  simp only
  cases s.1.graph.insert added with
  | error e => rfl
  | ok graph => rfl

theorem host {x : m α} {y : n α} (h : Mirrors forget x y) :
    Agree forget (fun _ => True) (liftM x : Action m α) (liftM y : Action n α) := by
  intro s
  rw [Framed.run_host, Framed.run_host]
  simp only [h s.2]
  exact ⟨rfl, fun _ _ => trivial⟩

end Agree

/-- The second stage is as the first, in a world that keeps more, but for the listeners of the
built-in hooks. -/
structure Alike (forget : τ → σ) (s : Stage m) (s' : Stage n) : Prop where
  host : s.host.MirroredBy forget s'.host
  say (note : String) : Mirrors forget (s.say note) (s'.say note)
  registry : ∀ hook ∉ builtinNames, s.registry.hooks.get? hook = s'.registry.hooks.get? hook
  isolated : s.registry.Isolated

variable {forget : τ → σ} {s : Stage m} {s' : Stage n}
variable {nested : String → Action m (Except Error Unit)}
variable {nested' : String → Action n (Except Error Unit)}

/-- Hooks that are not built in are invoked alike. -/
def NestedAlike (forget : τ → σ) (nested : String → Action m (Except Error Unit))
    (nested' : String → Action n (Except Error Unit)) : Prop :=
  ∀ hook ∉ builtinNames, Agree forget (fun _ => True) (nested hook) (nested' hook)

theorem runSync_alike (hs : Alike forget s s') (hn : NestedAlike forget nested nested')
    {t : Task false} (ht : t.Isolated) :
    Agree forget (fun _ => True) (runSync s nested t) (runSync s' nested' t) := by
  induction t with
  | finish outcome => exact .pure trivial
  | look next ih => exact .bind .look fun c _ => ih c (ht c)
  | insert added next ih => exact .bind (.insertModule added) fun r _ => ih r (ht r)
  | say note next ih => exact .bind (.host (hs.say note)) fun _ _ => ih ht
  | invokeSync hook next ih => exact .bind (hn hook ht.1) fun r _ => ih r (ht.2 r)
  | pause h next ih => cases h
  | invoke h hook next ih => cases h
  | read h path next ih => cases h
  | write h path bytes next ih => cases h

theorem runTaps_alike {run : Task false → Action m Outcome}
    {run' : Task false → Action n Outcome}
    (hrun : ∀ t : Task false, t.Isolated → Agree forget (fun _ => True) (run t) (run' t))
    (hook : String)
    {taps : List Tap} (htaps : ∀ tap ∈ taps, tap.listener.Isolated) :
    Agree forget (fun _ => True) (runTaps run hook taps) (runTaps run' hook taps) := by
  induction taps with
  | nil => exact .pure trivial
  | cons tap taps ih =>
    obtain ⟨name, listener⟩ := tap
    rw [List.forall_mem_cons] at htaps
    cases listener with
    | async task => exact ih htaps.2
    | sync task =>
      refine .bind (hrun task htaps.1) fun outcome _ => ?_
      cases outcome with
      | error cause => exact .pure trivial
      | ok _ => exact ih htaps.2

theorem invokeNested_alike (hs : Alike forget s s') (fuel : Nat) :
    NestedAlike forget (invokeNested s fuel) (invokeNested s' fuel) := by
  induction fuel with
  | zero => exact fun _ _ => .lacking
  | succ fuel ih =>
    intro hook hhook
    rw [invokeNested, invokeNested, invokeSyncOn, invokeSyncOn, ← hs.registry hook hhook]
    cases hd : s.registry.hooks.get? hook with
    | none => exact .pure trivial
    | some d =>
      simp only
      split
      · exact runTaps_alike (fun t ht => runSync_alike hs ih ht) hook
          fun tap htap => hs.isolated.tap hd htap
      · exact .pure trivial

theorem advance_alike (hs : Alike forget s s') (hn : NestedAlike forget nested nested')
    {t : Task true} (ht : t.Isolated) :
    Agree forget Stop.Isolated (advance s nested t) (advance s' nested' t) := by
  induction t with
  | finish outcome => exact .pure trivial
  | look next ih => exact .bind .look fun c _ => ih c (ht c)
  | insert added next ih => exact .bind (.insertModule added) fun r _ => ih r (ht r)
  | say note next ih => exact .bind (.host (hs.say note)) fun _ _ => ih ht
  | invokeSync hook next ih => exact .bind (hn hook ht.1) fun r _ => ih r (ht.2 r)
  | pause h next ih => exact .pure ht
  | invoke h hook next ih => exact .pure ht
  | read h path next ih => exact .bind (.host (hs.host.read path)) fun r _ => ih r (ht r)
  | write h path bytes next ih =>
    exact .bind (.host (hs.host.write path bytes)) fun r _ => ih r (ht r)

theorem isolated_of_begin {r : Registry} (hr : r.Isolated) {hook : String} {i : Invocation}
    (h : begin_ r hook = .ok i) : i.Isolated := by
  unfold begin_ at h
  split at h
  · cases h
  · rename_i d hd
    split at h
    · cases h
    · cases h
      refine .parallel fun p hp => ?_
      obtain ⟨tap, htap, rfl⟩ := List.mem_map.1 hp
      exact .task (hr.tap hd htap).task
    · cases h
      exact .series (fun p hp => by cases hp) fun tap htap => hr.tap hd htap

/-- With some fuel, turns of listeners are alike. -/
def TurnAlike (forget : τ → σ) (s : Stage m) (s' : Stage n) (fuel : Nat) : Prop :=
  ∀ r : Running, r.Isolated →
    Agree forget (Turn.Isolated Running.Isolated) (turn s fuel r) (turn s' fuel r)

/-- With some fuel, turns of invocations are alike. -/
def TurnsAlike (forget : τ → σ) (s : Stage m) (s' : Stage n) (fuel : Nat) : Prop :=
  ∀ (i : Invocation) (paused : Nat), i.Isolated →
    Agree forget (Turn.Isolated Invocation.Isolated) (turns s fuel i paused)
      (turns s' fuel i paused)

section Step

variable {fuel paused : Nat} (hturn : TurnAlike forget s s' fuel)
variable (hturns : TurnsAlike forget s s' fuel)

include hturn hturns

theorem turn_succ_alike (hs : Alike forget s s') : TurnAlike forget s s' (fuel + 1) := by
  intro r hr
  cases hr with
  | task ht =>
    rw [turn, turn]
    refine .bind (advance_alike hs (invokeNested_alike hs fuel) ht) fun stop hstop => ?_
    cases stop with
    | finished outcome => exact .pure trivial
    | paused next => exact .pure (.task hstop)
    | invoking hook next =>
      have hbegin : begin_ s'.registry hook = begin_ s.registry hook := by
        rw [begin_, begin_, hs.registry hook hstop.1]
      simp only [hbegin]
      split
      · exact hturn _ (.task (hstop.2 _))
      · rename_i i hi
        exact hturn _ (.awaiting (isolated_of_begin hs.isolated hi) hstop.2)
  | awaiting hi hnext =>
    rw [turn, turn]
    refine .bind (hturns _ 0 hi) fun t ht => ?_
    cases t with
    | paused i => exact .pure (.awaiting ht hnext)
    | ended result => exact hturn _ (.task (hnext result))

theorem turns_series_alike {hook : String} {current : Option (String × Running)} {rest : List Tap}
    (hcurrent : ∀ p ∈ current, p.2.Isolated) (hrest : ∀ tap ∈ rest, tap.listener.Isolated) :
    Agree forget (Turn.Isolated Invocation.Isolated)
      (turns s (fuel + 1) (.series hook current rest) paused)
      (turns s' (fuel + 1) (.series hook current rest) paused) := by
  unfold turns
  cases current with
  | none =>
    cases rest with
    | nil => exact .pure trivial
    | cons tap rest =>
      obtain ⟨htap, hrest⟩ := List.forall_mem_cons.1 hrest
      refine hturns _ 0 (.series (fun p hp => ?_) hrest)
      cases hp
      exact .task htap.task
  | some p =>
    refine .bind (hturn p.2 (hcurrent p rfl)) fun t ht => ?_
    cases t with
    | paused running => exact .pure (.series (fun q hq => by cases hq; exact ht) hrest)
    | ended outcome =>
      cases outcome with
      | error cause => exact .pure trivial
      | ok _ => exact hturns _ 0 (.series (fun q hq => by cases hq) hrest)

theorem turns_parallel_alike {hook : String} {waiting : List (String × Running)}
    {failure? : Option Error} (hwaiting : ∀ p ∈ waiting, p.2.Isolated) :
    Agree forget (Turn.Isolated Invocation.Isolated)
      (turns s (fuel + 1) (.parallel hook waiting failure?) paused)
      (turns s' (fuel + 1) (.parallel hook waiting failure?) paused) := by
  unfold turns
  cases waiting with
  | nil =>
    cases failure? with
    | none => exact .pure trivial
    | some e => exact .pure trivial
  | cons p waiting =>
    obtain ⟨hp, hwaiting⟩ := List.forall_mem_cons.1 hwaiting
    refine .bind (hturn p.2 hp) fun t ht => ?_
    cases t with
    | paused running =>
      have hall : ∀ q ∈ waiting ++ [(p.1, running)], q.2.Isolated := by
        intro q hq
        rcases List.mem_append.1 hq with hq | hq
        · exact hwaiting q hq
        · exact List.mem_singleton.1 hq ▸ ht
      simp only
      split
      · exact .pure (.parallel hall)
      · exact hturns _ _ (.parallel hall)
    | ended outcome => exact hturns _ 0 (.parallel hwaiting)

end Step

/-- Turns are alike: by induction on the fuel, for listeners and invocations together. -/
theorem turn_turns_alike (hs : Alike forget s s') (fuel : Nat) :
    TurnAlike forget s s' fuel ∧ TurnsAlike forget s s' fuel := by
  induction fuel with
  | zero =>
    constructor
    · intro r _
      rw [turn, turn]
      exact .lacking
    · intro i paused _
      rw [turns, turns]
      exact .lacking
  | succ fuel ih =>
    obtain ⟨hturn, hturns⟩ := ih
    refine ⟨turn_succ_alike hturn hturns hs, ?_⟩
    intro i paused hi
    cases hi with
    | series hcurrent hrest => exact turns_series_alike hturn hturns hcurrent hrest
    | parallel hwaiting => exact turns_parallel_alike hturn hturns hwaiting

end ModuleBundler.Hook
