import ModuleBundler.Proofs.Compiler.Step
import ModuleBundler.Proofs.Hook.Schedule

/-!
# Watched runs

A run of which can be seen when it enters a phase, when a listener on a built-in hook is called and
when it ends, whether the graph was found to be closed, and what it asks the host to change. The
turns of the listeners that wait fall as a schedule says. Every run that ends is a watched one, but
for the log.
-/

namespace ModuleBundler.Compiler

open FileSystem (Host)
open Hook (Agree Alike Choice Event Framed Logged Stage logged unlogged watchedHost watchedStage)

/-- How turns fall at the hooks that wait. -/
structure Schedule where
  make : List Choice
  emit : List Choice
  afterEmit : List Choice
  deriving Inhabited

section Watching

variable {m : Type → Type} [Monad m]

def notice (e : Event) : Step (Logged m) Unit := withHooks (Hook.tell e)

def watchedBuild (c : Compiler) (h : Host (Logged m)) : Step (Logged m) Module := do
  notice (.entered .build)
  c.buildEntry h

def watchedCompilation (c : Compiler) (s : Stage (Logged m)) (fuel : Nat) :
    Step (Logged m) Unit := do
  notice (.entered .graphAssembled)
  enter .graphAssembled
  check .hook (← withHooks (Hook.watchSync s fuel c.registry Hook.compilation))

def watchedMake (c : Compiler) (s : Stage (Logged m)) (fuel : Nat) (schedule : List Choice)
    (entry : Module) : Step (Logged m) Unit := do
  notice (.entered .make)
  enter .make
  let graph := (← getThe Compilation).graph
  match ← inHost (Graph.expandInto (c.builder s.host) c.settings.maxModules? fuel entry graph) with
  | none => withHooks Hook.outOfFuel
  | some o =>
    modifyThe Compilation fun c => { c with graph := o.graph }
    let _ ← check .build o.result
    check .hook (← withHooks (Hook.watch s schedule c.registry Hook.make))
    let now ← getThe Compilation
    let closed := now.graph.validate now.entry
    notice (.checked closed.toBool)
    check .graph closed

def watchedWriting (c : Compiler) (h : Host (Logged m)) : Step (Logged m) Artifact := do
  notice (.entered .generate)
  c.writeBundle h

def watchedAfterWriting (c : Compiler) (s : Stage (Logged m)) (schedule : List Choice)
    (artifact : Artifact) (phase : Phase) (hook : String) : Step (Logged m) Unit := do
  notice (.entered phase)
  enter phase
  check (.postProcess artifact.path) (← withHooks (Hook.watch s schedule c.registry hook))

def watchedDone (artifact : Artifact) : Step (Logged m) Success := do
  notice (.entered .done)
  enter .done
  return ⟨artifact, (← getThe Compilation).entry⟩

def watchedAssemble (c : Compiler) (s : Stage (Logged m)) (fuel : Nat) (schedule : List Choice) :
    Step (Logged m) Unit := do
  let entry ← c.watchedBuild s.host
  c.watchedCompilation s fuel
  c.watchedMake s fuel schedule entry

def watchedConclude (c : Compiler) (s : Stage (Logged m)) (emit afterEmit : List Choice) :
    Step (Logged m) Success := do
  let artifact ← c.watchedWriting s.host
  c.watchedAfterWriting s emit artifact .emit Hook.emit
  c.watchedAfterWriting s afterEmit artifact .afterEmit Hook.afterEmit
  watchedDone artifact

def watchedStages (c : Compiler) (h : Host m) (say : String → m Unit) (fuel : Nat)
    (schedule : Schedule) : Step (Logged m) Success := do
  let s := watchedStage ⟨h, say, c.registry⟩
  c.watchedAssemble s fuel schedule.make
  c.watchedConclude s schedule.emit schedule.afterEmit

def watchedRun (c : Compiler) (h : Host m) (say : String → m Unit) (fuel : Nat)
    (schedule : Schedule) : Logged m (Option Ending) := do
  match ← c.workingDirectory (watchedHost h) with
  | .error e => return some ⟨.error (.fileSystem e), none⟩
  | .ok directory =>
    match c.compilationIn directory with
    | .error e => return some ⟨.error (.build (.invalidId e)), none⟩
    | .ok start =>
      let (result?, final) ← ((c.watchedStages h say fuel schedule).run.run).run start
      return result?.map fun result => ⟨result, some final⟩

end Watching

variable {m : Type → Type} [Monad m] {σ : Type} [World m σ] {α γ ι κ : Type}

theorem run_notice_bind (e : Event) (f : Unit → Step (Logged m) α)
    (u : Compilation × List Event × σ) :
    World.run (notice e >>= f).run.run u = World.run (f ()).run.run (logged e u) := by
  rw [run_bind, notice, withHooks, run_action, Hook.run_tell]

/-- Both stages do the same but for the log. -/
def Echoes (x : Step m α) (y : Step (Logged m) α) : Prop := Hook.Echoes x.run y.run

namespace Echoes

theorem pure (a : α) : Echoes (Pure.pure a : Step m α) (Pure.pure a) := Agree.pure trivial

theorem bind {x : Step m α} {y : Step (Logged m) α} {f : α → Step m γ}
    {g : α → Step (Logged m) γ} (hx : Echoes x y) (hf : ∀ a, Echoes (f a) (g a)) :
    Echoes (x >>= f) (y >>= g) := by
  refine Agree.bind hx fun result _ => ?_
  cases result with
  | error e => exact Agree.pure trivial
  | ok a => exact hf a

theorem action {x : Hook.Action m α} {y : Hook.Action (Logged m) α} (h : Hook.Echoes x y) :
    Echoes (liftM x : Step m α) (liftM y) :=
  Agree.bind h fun _ _ => Agree.pure trivial

theorem host {x : m α} {y : Logged m α} (h : Mirrors (Prod.snd : List Event × σ → σ) x y) :
    Echoes (inHost x : Step m α) (inHost y) :=
  action (Agree.host h)

theorem get : Echoes (getThe Compilation : Step m Compilation) (getThe Compilation) :=
  action Agree.look

theorem modify (f : Compilation → Compilation) :
    Echoes (modifyThe Compilation f : Step m PUnit) (modifyThe Compilation f) := by
  refine action (x := modifyThe Compilation f) (y := modifyThe Compilation f) fun s => ?_
  rw [Framed.run_modify, Framed.run_modify]
  exact ⟨rfl, fun _ _ => trivial⟩

theorem check {ε : Type} (wrap : ε → Bundle.Error) (result : Except ε α) :
    Echoes (check wrap result : Step m α) (check wrap result) := by
  cases result with
  | error e => exact Agree.pure trivial
  | ok a => exact .pure a

theorem notice_bind {x : Step m α} {e : Event} {f : Unit → Step (Logged m) α}
    (h : Echoes x (f ())) : Echoes x (notice e >>= f) := by
  intro u
  rw [run_notice_bind]
  exact h (logged e u)

end Echoes

/-- Whatever the stage `x` gives, `y` gives under some choice. -/
def Follows (x : Step m α) (y : ι → Step (Logged m) α) : Prop :=
  Hook.Follows x.run fun i => (y i).run

namespace Follows

theorem of_echoes {x : Step m α} {y : Step (Logged m) α} (h : Echoes x y) (i : ι) :
    Follows x fun _ : ι => y :=
  Hook.Follows.of_echoes h i

theorem weaken {x : Step m α} {y : ι → Step (Logged m) α} {y' : κ → Step (Logged m) α}
    (h : Follows x y) (f : ι → κ) (hf : ∀ i, y i = y' (f i)) : Follows x y' := by
  intro u result t hrun
  obtain ⟨i, v, hi, hv⟩ := h u result t hrun
  have hrun' : World.run (y i).run.run u = (some result, v) := hi
  rw [hf i] at hrun'
  exact ⟨f i, v, hrun', hv⟩

theorem bind [Inhabited κ] {x : Step m α} {y : ι → Step (Logged m) α} {f : α → Step m γ}
    {g : α → κ → Step (Logged m) γ} (hx : Follows x y) (hf : ∀ a, Follows (f a) (g a)) :
    Follows (x >>= f) fun p : ι × κ => y p.1 >>= fun a => g a p.2 := by
  intro u result t hrun
  change ∃ p : ι × κ, ∃ w, World.run (y p.1 >>= fun a => g a p.2).run.run u = (some result, w) ∧ _
  rw [run_bind] at hrun
  rcases hfirst : World.run x.run.run (unlogged u) with ⟨_ | (e | a), t'⟩
  · rw [hfirst] at hrun
    cases hrun
  · rw [hfirst] at hrun
    cases hrun
    obtain ⟨i, v, hi, hv⟩ := hx u _ _ hfirst
    refine ⟨(i, default), v, ?_, hv⟩
    rw [run_bind, hi]
  · rw [hfirst] at hrun
    obtain ⟨i, v, hi, rfl⟩ := hx u _ _ hfirst
    obtain ⟨j, w, hj, hw⟩ := hf a v _ _ hrun
    refine ⟨(i, j), w, ?_, hw⟩
    rw [run_bind, hi]
    exact hj

/-- A stage on which no choice bears, and then one on which choices bear. -/
theorem after [Inhabited ι] {x : Step m α} {y : Step (Logged m) α} {f : α → Step m γ}
    {g : α → ι → Step (Logged m) γ} (hx : Echoes x y) (hf : ∀ a, Follows (f a) (g a)) :
    Follows (x >>= f) fun i => y >>= fun a => g a i :=
  ((of_echoes hx ()).bind hf).weaken Prod.snd fun _ => rfl

/-- A stage on which choices bear, and then one on which no choice bears. -/
theorem before {x : Step m α} {y : ι → Step (Logged m) α} {f : α → Step m γ}
    {g : α → Step (Logged m) γ} (hx : Follows x y) (hf : ∀ a, Echoes (f a) (g a)) :
    Follows (x >>= f) fun i => y i >>= g :=
  (hx.bind fun a => of_echoes (hf a) ()).weaken Prod.fst fun _ => rfl

theorem action {x : Hook.Action m α} {y : ι → Hook.Action (Logged m) α} (h : Hook.Follows x y) :
    Follows (liftM x : Step m α) fun i => liftM (y i) := by
  intro u result t hrun
  rw [run_action] at hrun
  rcases hx : World.run x.run (unlogged u) with ⟨_ | a, t'⟩
  · rw [hx] at hrun
    cases hrun
  · rw [hx] at hrun
    cases hrun
    obtain ⟨i, v, hi, hv⟩ := h u _ _ hx
    refine ⟨i, v, ?_, hv⟩
    change World.run (liftM (y i) : Step (Logged m) α).run.run u = _
    rw [run_action, hi]

theorem notice_bind {x : Step m α} {e : Event} {f : Unit → ι → Step (Logged m) α}
    (h : Follows x (f ())) : Follows x fun i => notice e >>= fun a => f a i := by
  intro u result t hrun
  obtain ⟨i, v, hi, hv⟩ := h (logged e u) result t hrun
  refine ⟨i, v, ?_, hv⟩
  change World.run (notice e >>= fun a => f a i).run.run u = _
  rw [run_notice_bind]
  exact hi

end Follows

/-! ## Stages -/

section Stages

variable {c : Compiler} {h : Host m} {s : Stage m} {s' : Stage (Logged m)}

theorem watchedBuild_echoes (h : Host m) :
    Echoes (c.buildEntry h) (c.watchedBuild (watchedHost h)) := by
  refine .notice_bind (.bind (.modify _) fun _ => .bind .get fun now => ?_)
  refine .bind (.host (Builder.build_mirrors (Hook.watchedHost_mirrors h) _)) fun built => ?_
  refine .bind (.check _ _) fun entry => .bind (.action (.insertModule entry)) fun added => ?_
  exact .bind (.check _ _) fun _ => .pure entry

theorem watchedCompilation_echoes (hs : Alike (Prod.snd : List Event × σ → σ) s s')
    (hc : c.registry.Isolated) (fuel : Nat) :
    Echoes (c.callCompilation s fuel) (c.watchedCompilation s' fuel) := by
  refine .notice_bind (.bind (.modify _) fun _ => ?_)
  exact .bind (.action (Hook.watchSync_echoes hs fuel hc _)) fun result => .check _ result

theorem watchedMake_follows (hs : Alike (Prod.snd : List Event × σ → σ) s s')
    (hc : c.registry.Isolated) (fuel : Nat) (entry : Module) :
    Follows (c.makeGraph s fuel entry) fun schedule => c.watchedMake s' fuel schedule entry := by
  refine .notice_bind (.after (.modify _) fun _ => .after .get fun now => ?_)
  refine .after (.host (Graph.expandInto_mirrors hs.host _ fuel entry _)) fun o => ?_
  cases o with
  | none => exact .of_echoes (.action .lacking) default
  | some o =>
    refine .after (.modify _) fun _ => .after (.check _ _) fun _ => ?_
    refine .before (.action (Hook.watch_follows hs fuel hc _)) fun result => ?_
    refine .bind (.check _ _) fun _ => .bind .get fun now => ?_
    exact .notice_bind (.check _ _)

theorem watchedWriting_echoes (h : Host m) :
    Echoes (c.writeBundle h) (c.watchedWriting (watchedHost h)) := by
  refine .notice_bind (.bind (.modify _) fun _ => .bind .get fun now => ?_)
  refine .bind (.host (Bundle.writeArtifact_mirrors (Hook.watchedHost_mirrors h) _ _ _)) fun r => ?_
  exact .bind (.check _ _) fun path => .bind (.modify _) fun _ => .pure _

theorem watchedAfterWriting_follows (hs : Alike (Prod.snd : List Event × σ → σ) s s')
    (hc : c.registry.Isolated) (fuel : Nat) (artifact : Artifact) (phase : Phase)
    (hook : String) :
    Follows (c.callAfterWriting s fuel artifact phase hook)
      fun schedule => c.watchedAfterWriting s' schedule artifact phase hook := by
  refine .notice_bind (.after (.modify _) fun _ => ?_)
  exact .before (.action (Hook.watch_follows hs fuel hc _)) fun result => .check _ result

theorem watchedDone_echoes (artifact : Artifact) :
    Echoes (do enter .done; return ⟨artifact, (← getThe Compilation).entry⟩ : Step m Success)
      (watchedDone artifact) :=
  .notice_bind (.bind (.modify _) fun _ => .bind .get fun _ => .pure _)

theorem watchedAssemble_follows (hs : Alike (Prod.snd : List Event × σ → σ) s s')
    (hhost : s'.host = watchedHost s.host) (hc : c.registry.Isolated) (fuel : Nat) :
    Follows (c.assemble s fuel) fun schedule => c.watchedAssemble s' fuel schedule := by
  unfold assemble watchedAssemble
  rw [hhost]
  refine .after (watchedBuild_echoes s.host) fun entry => ?_
  exact .after (watchedCompilation_echoes hs hc fuel) fun _ => watchedMake_follows hs hc fuel entry

theorem watchedConclude_follows (hs : Alike (Prod.snd : List Event × σ → σ) s s')
    (hhost : s'.host = watchedHost s.host) (hc : c.registry.Isolated) (fuel : Nat) :
    Follows (c.conclude s fuel) fun p : List Choice × List Choice =>
      c.watchedConclude s' p.1 p.2 := by
  unfold conclude watchedConclude
  rw [hhost]
  refine .after (watchedWriting_echoes s.host) fun artifact => ?_
  have hrest := Follows.before (watchedAfterWriting_follows hs hc fuel artifact .afterEmit
    Hook.afterEmit) fun _ => watchedDone_echoes artifact
  exact (watchedAfterWriting_follows hs hc fuel artifact .emit Hook.emit).bind fun _ => hrest

theorem watchedStages_follows (h : Host m) (say : String → m Unit) (hc : c.registry.Isolated)
    (fuel : Nat) : Follows (c.stages h say fuel) (c.watchedStages h say fuel) := by
  have hs := Hook.watchedStage_alike (s := ⟨h, say, c.registry⟩) hc
  have hboth := (watchedAssemble_follows hs rfl hc fuel).bind fun _ =>
    watchedConclude_follows hs rfl hc fuel
  exact hboth.weaken (fun p => ⟨p.1, p.2.1, p.2.2⟩) fun _ => rfl

end Stages

theorem workingDirectory_mirrors {c : Compiler} (h : Host m) :
    Mirrors (Prod.snd : List Event × σ → σ) (c.workingDirectory h)
      (c.workingDirectory (watchedHost h)) :=
  workingDirectory_coupled (K := Mirrors.coupling Prod.snd)
    (Hook.watchedHost_mirrors h).workingDirectory

/-- A run that ends is a watched one under some choice, when this holds of its stages. -/
theorem Follows.runIn [Inhabited ι] {c : Compiler} {d : m (Except FileSystem.Error String)}
    {d' : Logged m (Except FileSystem.Error String)}
    (hd : Mirrors (Prod.snd : List Event × σ → σ) d d') {x : Step m Success}
    {y : ι → Step (Logged m) Success} (h : Follows x y) {s : σ} {ending : Ending} {t : σ}
    (hrun : World.run (c.runIn d x) s = (some ending, t)) :
    ∃ i seen, World.run (c.runIn d' (y i)) ([], s) = (some ending, seen, t) := by
  have hwatched (i : ι) := run_runIn c d' (y i) ([], s)
  rw [run_runIn, hd ([], s)] at hrun
  rcases hanswer : World.run d' ([], s) with ⟨e | directory, v⟩
  · rw [hanswer] at hrun hwatched
    cases hrun
    exact ⟨default, v.1, hwatched _⟩
  · rw [hanswer] at hrun hwatched
    cases hstart : c.compilationIn directory with
    | error e =>
      simp only [Prod.map, id, hstart] at hrun hwatched
      cases hrun
      exact ⟨default, v.1, hwatched _⟩
    | ok start =>
      simp only [Prod.map, id, hstart] at hrun hwatched
      rcases hstages : World.run x.run.run (start, v.2) with ⟨_ | result, u⟩
      · rw [hstages] at hrun
        cases hrun
      · rw [hstages] at hrun
        cases hrun
        obtain ⟨i, w, hi, rfl⟩ := h (start, v) _ _ hstages
        refine ⟨i, w.2.1, ?_⟩
        have hstages' : World.run (y i).run.run (start, v) = (some result, w) := hi
        rw [hwatched, hstages']
        rfl

/-- Every run that ends is a watched one under some schedule. -/
theorem exists_schedule {c : Compiler} (hc : c.registry.Isolated) {h : Host m}
    {say : String → m Unit} {fuel : Nat} {s : σ} {ending : Ending} {t : σ}
    (hrun : World.run (c.run h say fuel) s = (some ending, t)) : ∃ schedule seen,
      World.run (c.watchedRun h say fuel schedule) ([], s) = (some ending, seen, t) :=
  (watchedStages_follows h say hc fuel).runIn (workingDirectory_mirrors h) hrun

end ModuleBundler.Compiler
